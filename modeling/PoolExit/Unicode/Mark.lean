import PoolExit.Unicode.Table

/-!
# Marks

Characters that belong to the character before them: the general categories `Mn`, `Mc` and `Me`.
Version 17.0 of Unicode.
-/

namespace PoolExit.Unicode

/-- The runs of marks. -/
def markLines : List String :=
  ["300*70 114*7 108*2d 2 2*2 2*2 2 49*b 31*15 11 66*7 3*6 3*2 2*4 24 1f*1b 5c*b 3b*9 a 19*4",
   "2*9 2*3 2*5 2c*3 3c*9 2b*18 2*21 37*3 2*12 2*7 b*2 1e*3 39 2*7 3*2 3*3 a b*2 1b 3*3 39 2*5",
   "5*2 3*3 4 1f*2 4 c*3 39 2*8 2*3 2*3 15*2 17*6 2*3 39 2*7 3*2 3*3 8*3 b*2 1f 3c*5 4*3 2*4 a",
   "29*5 38 2*7 2*3 2*4 8*2 c*2 1e*3 39 2*7 2*3 2*4 8*2 c*2 10 d*4 38*2 2*7 2*3 2*4 a b*2 1e*3",
   "47 5*6 2 2*8 13*2 3e 3*7 d*8 63 3*9 c*7 4a*2 1c 2 2 5*2 32*14 2*2 6*b 2*24 a 65*14 18*4 5*3",
   "2*3 3*7 4*4 e*c 2 b*4 2c0*3 3b3*4 1d*3 1e*2 1f*2 41*20 a 2e*3 2 76*2 23 77*c 5*c dc*5 3a*a",
   "2*1d 3 31*2e 3*c 15*5 30*11 27*9 d*3 1f*d 39*e 31*14 99*3 2*15 5 7 3*3 c7*40 2d1*21 bff*3",
   "8e 61*20 22b*6 6a*2 75d5*4 2*a 21*2 51*2 111 4 5 18*5 5 54*2 33*12 1b*12 e 27*8 1a*d 2d*4",
   "30*e 25 44*e d 9*2 2e*3 33 2*3 3*2 6*2 2 2a*5 6*2 ed*8 2*2 4f31 2e2*10 11*10 3ce e3 96*5",
   "687*3 2*2 6*4 29*3 5 a6*2 23e*4 42*5 13e*2 4e*6 47*b 32*4 7b*3 36*f 2a 3*2 b*4 2e*b 8 3e*3",
   "25*e 11*2 2d d*3 31*e 9*4 2*2 5d*c 7 3 9e*c 16*4 38*2 2*7 3*2 3*3 a b*2 3*7 4*5 44*9 2 3",
   "2*4 2*5 2 f*2 53*12 18 52*14 ec*7 3*9 1c*2 53*11 6b*d 66*f 101*f f6*6 2*2 3*4 2 2*2 8e*7",
   "3*7 4 1d*a 29*7 2*4 9 a*b 2f*10 c7*8 c8*8 2*8 53*16 2*e 7b*6 4 2*2 2*7 2 43*5 2*2 2*5 15c*4",
   "a*2 2 31*7 4*5 18 14e6 7*f 2cc9*12 9c1*5 3c*7 419 2*37 8*4 52 c*2 4cac*2 1262*2e 3*17 21f*5",
   "4*6 9*8 3*7 1f*4 95*3 7bc*37 5*32 9 f 17*5 2*f 551*7 2*11 3*7 2*2 2*5 65 a1*7 178 3e*4",
   "1fd*4 ff*2 f4 3 8*2 6 1db*7 6e*7 c17b6*f0"]

/-- The marks. -/
def marks : Table Unit := Table.ofLines markLines fun _ _ => ()

/-- Whether a character is a mark. -/
def isMark (c : Char) : Bool := (marks.value? c).isSome

end PoolExit.Unicode
