import PoolExit.Unicode.Table

/-!
# Directions of writing

Which way a character is written, as far as it matters in domain names: the property `Bidi_Class`, with
its two neutral classes as one.  Version 17.0 of Unicode.
-/

namespace PoolExit.Unicode

/-- How a character takes part in the direction of a text. -/
inductive Direction where
  | leftToRight
  | rightToLeft
  /-- A letter of Arabic or a script like it. -/
  | arabicLetter
  | europeanNumber
  | arabicNumber
  /-- A sign such as the plus and the minus sign. -/
  | sign
  /-- What belongs to a number next to it, such as the percent sign. -/
  | numberMark
  /-- What stands between the parts of a number, such as the comma. -/
  | separator
  | nonspacingMark
  | neutral
  /-- What shapes the text itself: ends of paragraphs, blanks and marks of direction. -/
  | formatting
deriving DecidableEq, Repr

namespace Direction

/-- The direction that a letter of the table stands for. -/
def ofLetter : Char → Direction
  | 'r' => rightToLeft
  | 'a' => arabicLetter
  | 'e' => europeanNumber
  | 'n' => arabicNumber
  | 's' => sign
  | 't' => numberMark
  | 'c' => separator
  | 'm' => nonspacingMark
  | 'o' => neutral
  | _ => formatting

/-- The runs of characters that are not written from left to right, each with a letter. -/
def lines : List String :=
  ["0*9:o 1*5:x 1*e:o 1*5:x 1*2:o 1*3:t 1*5:o 1:s 1:c 1:s 1*2:c 1*a:e 1:c 1*6:o 1b*6:o 1b*a:o",
   "1:x 1*1a:o 1:c 1:o 1*4:t 1*4:o 2*5:o 1*2:t 1*2:e 1:o 2*3:o 1:e 2*5:o 18:o 20:o 1c2*2:o",
   "8*e:o 3*e:o 6*9:o 2*11:o 1*70:m 5*2:o 9:o 6*2:o 2:o 6f:o 8d*7:m 101:o 3*2:o 1:t 2*2d:m 1:r",
   "1:m 1:r 1*2:m 1:r 1*2:m 1:r 1:m 9*1b:r 5*6:r c*6:n 1*2:o 1:a 1*2:t 1:a 1:c 1:a 1*2:o 1*b:m",
   "1*30:a 1*15:m 1*a:n 1:t 1*2:n 1*3:a 1:m 1*65:a 1*7:m 1:n 1:o 1*6:m 1*2:a 1*2:m 1:o 1*4:m",
   "1*2:a 1*a:e 1*14:a 2*2:a 1:m 1*1e:a 1*1b:m 3*59:a 1*b:m 1:a f*2b:r 1*9:m 1*2:r 1*4:o 1:r",
   "3:m 1*18:r 1*4:m 1:r 1*9:m 1:r 1*3:m 1:r 1*5:m 3*f:r 2*19:r 1*3:m 3:r 2*b:a 6*20:a 1*2:n",
   "6*9:m 1*2a:a 1*18:m 1:n 1*20:m 38:m 2:m 5*8:m 5:m 4*7:m b*2:m 1e:m 3b:m 5*4:m 9:m 15*2:m",
   "f*2:t 8:t 3:m 3*2:m 3a:m 5*2:m 5*2:m 3*3:m 4:m 1f*2:m 4:m c*2:m 3a:m 5*5:m 2*2:m 5:m 15*2:m",
   "e:t 9*6:m 2:m 3b:m 3:m 2*4:m 9:m 8*2:m c*2:m 1f:m 3e:m d:m 26*6:o 1:t 1:o 6:m 4:m 38:m",
   "2*3:m 6*3:m 2*4:m 8*2:m c*2:m 15*7:o 3:m 3b:m 10*2:m 15*2:m 1d*2:m 3a*2:m 5*4:m 9:m 15*2:m",
   "1e:m 49:m 8*3:m 2:m 5b:m 3*7:m 5:t 8*8:m 63:m 3*9:m c*7:m 4a*2:m 1c:m 2:m 2:m 1*4:o 34*e:m",
   "2*5:m 2*2:m 6*b:m 2*24:m a:m 67*4:m 2*6:m 2*2:m 3*2:m 1a*2:m 5*3:m 11*4:m e:m 3*2:m 7:m",
   "10:m 2c0*3:m 31*a:o 67:o 280:x 1b*2:o 76*3:m 1e*2:m 1f*2:m 1f*2:m 41*2:m 2*7:m 9:m 3*b:m",
   "8:t 2:m 13*a:o 7*b:o 1*3:m 1:o 1:m 76*2:m 23:m 77*3:m 5*2:m a:m 7*3:m 5:o 4*2:o 99*22:o",
   "18*2:m 3:m 3b:m 2*7:m 2:m 2:m 3*8:m 7*a:m 3:m 31*2e:m 3*c:m 15*4:m 31:m 2*5:m 2:m 6:m",
   "29*9:m d*2:m 21*4:m 3*2:m 2*3:m 39:m 2*2:m 4:m 2*3:m 3b*8:m 3*2:m 99*3:m 2*d:m 2*7:m 5:m",
   "7:m 4*2:m c7*40:m 1be:o 2*3:o c*3:o e*3:o e*3:o e*2:o 2*b:x 1*3:o 2:r 1*18:o 1*7:x 1:c",
   "1*5:t 1*f:o 1:c 1*1a:o 1:x 1*5:o 2*4:x 1*6:o 1:e 4*6:e 1*2:s 1*3:o 2*a:e 1*2:s 1*3:o",
   "12*22:t f*21:m 10*2:o 2*4:o 2*2:o b:o 2*3:o 6*6:o 2:o 2:o 2:o 5:t c*2:o 5*5:o 6*4:o 3*10:o",
   "2a*3:o 5*82:o 1:s 1:t 1*122:o 46*1a:o 2*94:o 17*b:o 16*28:o 1*14:e 4f*1c2:o 2*153:o",
   "101*274:o 3*8a:o e6*6:o 5*3:m 8*7:o 80:m 61*20:m 1*5e:o 23*1a:o 2*59:o d*d6:o 1b*10:o 1:x",
   "1*4:o 4*19:o a*4:m 3:o 6*2:o 6*3:o 5a*2:m 1*2:o 4:o 5b:o c5*26:o a:o 2e*2:o 32*10:o 1d*3:o",
   "33*f:o d*4:o a8*4:o 64*2:o 20:o 19c1*40:o 5691*37:o 147*3:o 60*4:m 1:o 1*a:m 1*2:o 1f*2:m",
   "51*2:m f*22:o 67:o 7a:m 4:m 5:m 1a*2:m 2*4:o 1:m c*2:t 3b*4:o 4d*2:m 1b*12:m e:m 27*8:m",
   "1a*b:m 2f*3:m 31:m 3*4:m 3*2:m 28:m 44*6:m 3*2:m 3*2:m d:m 9:m 30:m 34:m 2*3:m 3*2:m 6*2:m",
   "2:m 2b*2:m 9:m 74*2:o 7a:m 3:m 5:m 4f30:r 1:m 1*a:r 1:s 1*d:r 2*5:r 2:r 2*2:r 2*2:r 2*a:r",
   "1*73:a 1*10:o 1*16b:a 1*12:o 1*40:a 1*2:o 1*36:a 1*8:o 21*d:a 1*3:o 1*10:m 1*a:o 7*10:m",
   "1*20:o 1:c 1:o 1:c 2:o 1:c 1*9:o 1:t 1*2:o 1*2:s 1*3:o 2:o 1*2:t 1:o 5*5:a 2*87:a 3:o 2*2:o",
   "1*3:t 1*5:o 1:s 1:c 1:s 1*2:c 1*a:e 1:c 1*6:o 1b*6:o 1b*b:o 7b*2:t 1*3:o 1*2:t 2*7:o b*5:o",
   "104:o 3f*4d:o 4*d:o 4:o 5d:m e3:m 1*1b:e 7b*5:m 486*6:r 3:r 2*2c:r 2*2:r 4:r 3*17:r 2*48:r",
   "9*9:r 31*13:r 2*2:r 6*21:r 4:o 1*1a:r 6*1b:r 27*38:r 5*14:r 3*2f:r 1*3:m 2*2:m 6*4:m 1*4:r",
   "2*3:r 2*1d:r 3*3:m 5:m 1*9:r 8*9:r 8*40:r 21*25:r 1*2:m 5*c:r a*36:r 4*7:o 1*16:r 3*1b:r",
   "6*1a:r 8*4:r d*7:r 51*49:r 38*33:r e*33:r 8*6:r 1*24:a 1*4:m 9*a:n 7*a:n 1*1c:r 4*5:m 1:o",
   "1*17:r 9*2:r d1*1f:n 2*2a:r 2*2:m 1:r 3*2:r 11*6:a 9*9:o 22*6:m 1*28:r 9*16:a 1*b:m 1*9:a",
   "17*12:r 1*4:m 1*4:r 27*1c:r 15*17:r b:m 37*f:m c*14:o b:m 3*2:m b*3:m 32*4:m 3*2:m 8:m",
   "3e*3:m 25*5:m 2*8:m 3f:m d*2:m 35*9:m b*4:m 3:m 60*3:m 3:m 2*2:m 7:m 3:m 9e:m 4*8:m 16*2:m",
   "3a*2:m 4:m 26*7:m 4*5:m 47*6:m e:m 2:m 2:m f*2:m 56*8:m 3*3:m 2:m 18:m 55*6:m 2:m 5*2:m",
   "2*2:m ef*4:m 7*2:m 2*2:m 1c*2:m 56*8:m 3:m 2*2:m 20*d:o 3f:m 2:m 3*6:m 2:m 66*3:m 3*4:m",
   "2*5:m 104*9:m 2*2:m 101*2:m 2:m 5:m 91*4:m 3*2:m 5:m 21*6:m 3*2:m 29*6:m 3*4:m 9:m a*6:m",
   "3*3:m 2f*d:m 2*2:m c7:m 2*3:m 2:m ca*7:m 2*6:m 55*16:m 3*7:m 2*2:m 2*2:m 7b*6:m 4:m 2*2:m",
   "2*7:m 2:m 49*2:m 4:m 2:m 15c*2:m c*2:m 35*5:m 6:m 2:m 18:m 7b*8:o 1*4:t 1*11:o 144f:m 7*f:m",
   "2cc9*c:m 4*3:m 9c1*5:m 3c*7:m 419:m 40*4:m 50:o 2:m 4cb9*2:m 2*4:o f5d*f0:o 1*a:e 1*3:o",
   "4*1b4:o 7*17:o 10*11:o 10*2e:m 3*17:m 221*3:m a*8:o 1*8:m 3*7:m 1f*4:m 3c*2:o 16*42:o 1*3:m",
   "1:o bb*57:o 385:o 3a:o 3a:o 3a:o 3a:o b*32:e 201*37:m 5*32:m 9:m f:m 17*5:m 2*f:m 551*7:m",
   "2*11:m 3*7:m 2*2:m 2*5:m 65:m a1*7:m 178:m 3e*4:m 10:t 1ed*4:m ff*2:m f4:m 3:m 8*2:m 6:m",
   "10b*c5:r 3*9:r 1*7:m 2a*44:r 1*7:m 1:r 5*a:r 5*2:r 312*44:a 4d*3d:a c3*4:a 2*1b:a 2*2:a 2:a",
   "3:a 2*a:a 2*4:a 2:a 2:a 7:a 5:a 2:a 2:a 2*3:a 2*2:a 2:a 3:a 2:a 2:a 2:a 2:a 2*2:a 2:a 3*4:a",
   "2*7:a 2*4:a 2*4:a 2:a 2*a:a 2*11:a 6*3:a 2*5:a 2*11:a 35*2:o 10f*2c:o 5*64:o d*f:o 3*f:o",
   "2*f:o 2*25:o b*b:e 1*5:o 20:o 3b*6:o 3e:o b3*6:o 9b*3d9:o 4*11:o 4*d:o 4*da:o 7*c:o 5:o",
   "10*c:o 5*38:o 9*a:o 7*28:o 9*1e:o 3*c:o 5*2:o f*9:o 28*158:o 9*e:o 3*d:o 4*b:o 4*39:o 2:o",
   "5*10:o 3*c:o 5*a:o 8*93:o 2*5c:o 1*a:e 1:o c0407:o 1f*60:o 81*f0:m"]

/-- The directions other than from left to right. -/
def table : Table Direction :=
  Table.ofLines lines fun _ value => (value.head?.map ofLetter).getD formatting

/-- The direction of a character. -/
def of (c : Char) : Direction := (table.value? c).getD leftToRight

end Direction

end PoolExit.Unicode
