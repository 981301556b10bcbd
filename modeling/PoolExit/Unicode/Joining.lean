import PoolExit.Unicode.Table

/-!
# Joining

How letters of cursive scripts are joined to their neighbours: the property `Joining_Type`.  Version
17.0 of Unicode.
-/

namespace PoolExit.Unicode

/-- To which neighbours a letter is joined. -/
inductive Joining where
  /-- To none. -/
  | none
  /-- To the letter before it. -/
  | right
  /-- To the letter behind it. -/
  | left
  /-- To both. -/
  | both
  /-- It makes its neighbours join. -/
  | causing
  /-- Its neighbours join as if it were not there. -/
  | transparent
deriving DecidableEq, Repr

namespace Joining

/-- The kind of joining that a letter of the table stands for. -/
def ofLetter : Char → Joining
  | 'r' => right
  | 'l' => left
  | 'd' => both
  | 'c' => causing
  | 't' => transparent
  | _ => none

/-- The runs of characters that are joined in some way, each with a letter. -/
def lines : List String :=
  ["ad:t 253*70:t 114*7:t 108*2d:t 2:t 2*2:t 2*2:t 2:t 49*b:t 2:t 4:d 2*4:r 1:d 1:r 1:d 1:r",
   "1*5:d 1*4:r 1*d:d 1:c 1*7:d 1:r 1*2:d 1*15:t f*2:d 1:t 1*3:r 2*3:r 1*10:d 1*12:r 1*26:d 1:r",
   "1*2:d 1*9:r 1:d 1:r 1:d 1:r 1*2:d 1*2:r 2:r 1*7:t 3*6:t 3*2:t 2*4:t 1*2:r b*3:d 3:d 10:t",
   "1:r 1:t 1*3:d 1*5:r 1*4:d 1:r 1*9:d 1:r 1:d 1:r 1:d 1:r 1*2:d 1:r 1*1b:t 3:r 1*b:d 1*3:r",
   "1*f:d 1*2:r 1*4:d 1:r 1:d 1*2:r 1*3:d 1*2:r 1*6:d 27*b:t 1a*21:d 1*9:t 7:c 3:t 19*4:t 2*9:t",
   "2*3:t 2*5:t 13:r 1*5:d 1*2:r 1:d 1:r 1*a:d 1:r 1:d 1*3:r 1*3:t 5:d 2*4:d 2:r 1:d 1*2:r",
   "6*13:r 1*3:c 1:d 3*5:d 1:r 1:d 8*9:t 1*a:d 1*3:r 2:r 1*2:d 1*2:r 1*6:d 1:r 1*f:d 2*18:t",
   "2*20:t 38:t 2:t 5*8:t 5:t 4*7:t b*2:t 1e:t 3b:t 5*4:t 9:t 15*2:t 1b:t 3*2:t 3a:t 5*2:t",
   "5*2:t 3*3:t 4:t 1f*2:t 4:t c*2:t 3a:t 5*5:t 2*2:t 5:t 15*2:t 17*6:t 2:t 3b:t 3:t 2*4:t 9:t",
   "8*2:t c*2:t 1f:t 3e:t d:t 33:t 4:t 38:t 2*3:t 6*3:t 2*4:t 8*2:t c*2:t 1e:t 3b:t 3:t 7:t",
   "6*2:t 15*2:t 1d*2:t 3a*2:t 5*4:t 9:t 15*2:t 1e:t 49:t 8*3:t 2:t 5b:t 3*7:t d*8:t 63:t 3*9:t",
   "c*7:t 4a*2:t 1c:t 2:t 2:t 38*e:t 2*5:t 2*2:t 6*b:t 2*24:t a:t 67*4:t 2*6:t 2*2:t 3*2:t",
   "1a*2:t 5*3:t 11*4:t e:t 3*2:t 7:t 10:t 2c0*3:t 3b3*3:t 1e*2:t 1f*2:t 1f*2:t 41*2:t 2*7:t",
   "9:t 3*b:t a:t 2a:d 3:c 1*3:t 2:t 11*59:d d*2:t 1*22:d 1:t 1:d 76*3:t 5*2:t a:t 7*3:t dc*2:t",
   "3:t 3b:t 2*7:t 2:t 2:t 3*8:t 7*a:t 3:t 31*2e:t 3*c:t 15*4:t 31:t 2*5:t 2:t 6:t 29*9:t d*2:t",
   "21*4:t 3*2:t 2*3:t 39:t 2*2:t 4:t 2*3:t 3b*8:t 3*2:t 99*3:t 2*d:t 2*7:t 5:t 7:t 4*2:t",
   "c7*40:t 20c:t 2:c 1*2:t 1b*5:t 32*5:t 6*6:t 61*21:t bff*3:t 8e:t 61*20:t 22b*4:t 6c*2:t",
   "75d5*4:t 2*a:t 21*2:t 51*2:t 111:t 4:t 5:t 1a*2:t 6:t 14*32:d 1:l 52*2:t 1b*12:t e:t 27*8:t",
   "1a*b:t 2f*3:t 31:t 3*4:t 3*2:t 28:t 44*6:t 3*2:t 3*2:t d:t 9:t 30:t 34:t 2*3:t 3*2:t 6*2:t",
   "2:t 2b*2:t 9:t ef:t 3:t 5:t 4f31:t 2e2*10:t 11*10:t d0:t fa*3:t 202:t e3:t 96*5:t 687*3:t",
   "2*2:t 6*4:t 29*3:t 5:t 81*5:d 1:r 2:r 2*2:r 3:l 1*5:r 1*4:d 1:l 1*5:d 1:r 1*3:d 1:r 3:r",
   "1*2:t 5*4:d 1:r 91:d 1:r 1:d 1*3:r 1*3:d 1:r 1*2:d 1:r 1:d 1*2:r 1:d 1:r 18*4:r 1*2:d 152:l",
   "1*21:d 1:r 1:d 1*4:t 42*5:t 13e*2:t 16:r 1*2:d 2*2:d 33*6:t 31*3:d 1:r 1*11:d 2*b:t 1*3:d",
   "1:r 1c*4:d 1*2:r 1*c:d 1*4:t 2b:d 2*2:d 1*3:r 2:d 1*2:r 1*2:d 1:r 1*2:d 2:d 1*2:r 1:d 5:r",
   "1:d 1:l 36:t 37*f:t 2a:t 3*2:t b*3:t 32*4:t 3*2:t 8:t 3e*3:t 25*5:t 2*8:t 3f:t d*2:t 35*9:t",
   "b*4:t 3:t 60*3:t 3:t 2*2:t 7:t 3:t 9e:t 4*8:t 16*2:t 3a*2:t 4:t 26*7:t 4*5:t 47*6:t e:t 2:t",
   "2:t f*2:t 56*8:t 3*3:t 2:t 18:t 55*6:t 2:t 5*2:t 2*2:t ef*4:t 7*2:t 2*2:t 1c*2:t 56*8:t 3:t",
   "2*2:t 6b:t 2:t 3*6:t 2:t 66:t 2:t 3*4:t 2*5:t 104*9:t 2*2:t 101*2:t 2:t 5:t 91*4:t 3*2:t",
   "5:t 21*a:t 29*6:t 3*4:t 9:t a*6:t 3*3:t 2f*d:t 2*2:t c7:t 2*3:t 2:t ca*7:t 2*6:t 2:t",
   "53*16:t 3*7:t 2*2:t 2*2:t 7b*6:t 4:t 2*2:t 2*7:t 2:t 49*2:t 4:t 2:t 15c*2:t c*2:t 35*5:t",
   "6:t 2:t 18:t 14d6*11:t 7*f:t 2cc9*c:t 4*3:t 9c1*5:t 3c*7:t 419:t 40*4:t 52:t 4cb9*2:t 2*4:t",
   "125d*2e:t 3*17:t 221*3:t a*10:t 3*7:t 1f*4:t 95*3:t 7bc*37:t 5*32:t 9:t f:t 17*5:t 2*f:t",
   "551*7:t 2*11:t 3*7:t 2*2:t 2*5:t 65:t a1*7:t 178:t 3e*4:t 1fd*4:t ff*2:t f4:t 3:t 8*2:t 6:t",
   "1db*7:t 2a*44:d 1*8:t c16b6:t 1f*60:t 81*f0:t"]

/-- The kinds of joining other than `none`. -/
def table : Table Joining :=
  Table.ofLines lines fun _ value => (value.head?.map ofLetter).getD none

/-- How a character is joined. -/
def of (c : Char) : Joining := (table.value? c).getD none

end Joining

end PoolExit.Unicode
