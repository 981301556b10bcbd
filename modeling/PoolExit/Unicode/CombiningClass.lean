import PoolExit.Unicode.Table

/-!
# Combining classes

Marks are put in order by a class of their own, the property `Canonical_Combining_Class`; it is zero for
everything that starts a combination.  Version 17.0 of Unicode.
-/

namespace PoolExit.Unicode

/-- The runs of characters whose class is not zero, each with its class. -/
def combiningClassLines : List String :=
  ["300*15:e6 1:e8 1*4:dc 1:e8 1:d8 1*5:dc 1*2:ca 1*4:dc 1*2:ca 1*b:dc 1*5:1 1*4:dc 1*8:e6 1:f0",
   "1:e6 1*3:dc 1*3:e6 1*2:dc 2*3:e6 1*4:dc 1:e6 1:e8 1*2:dc 1:e6 1:e9 1*2:ea 1:e9 1*2:ea 1:e9",
   "1*d:e6 114*5:e6 10a:dc 1*4:e6 1:dc 1*3:e6 1:de 1:dc 1*6:e6 1*6:dc 1*2:e6 1:dc 1*2:e6 1:de",
   "1:e4 1:e6 1:a 1:b 1:c 1:d 1:e 1:f 1:10 1:11 1:12 1*2:13 1:14 1:15 1:16 2:17 2:18 1:19 2:e6",
   "1:dc 2:12 49*8:e6 1:1e 1:1f 1:20 31:1b 1:1c 1:1d 1:1e 1:1f 1:20 1:21 1:22 1*2:e6 1*2:dc",
   "1*5:e6 1:dc 1*2:e6 1:dc 11:23 66*7:e6 3*4:e6 1:dc 1:e6 3*2:e6 2:dc 1*2:e6 1:dc 24:24 1f:e6",
   "1:dc 1*2:e6 1:dc 1*2:e6 1*3:dc 1:e6 1*2:dc 1:e6 1:dc 1*3:e6 1:dc 1:e6 1:dc 1:e6 1:dc 1:e6",
   "1:dc 1*2:e6 a1*7:e6 1:dc 1:e6 a:dc 19*4:e6 2*9:e6 2*3:e6 2*5:e6 2c*3:dc 3c*2:e6 1*3:dc",
   "1*4:e6 2b*5:e6 1*5:dc 1*e:e6 2:dc 1*2:e6 1:dc 1*2:e6 1:dc 1*3:e6 1*3:dc 1:1b 1:1c 1:1d",
   "1*3:e6 1:dc 1*2:e6 1*2:dc 1*5:e6 3d:7 11:9 4:e6 1:dc 1*2:e6 68:7 11:9 31:e6 3e:7 11:9 6f:7",
   "11:9 6f:7 11:9 80:9 6f:7 11:9 8:54 1:5b 66:7 11:9 6e*2:9 11:9 7d:9 6e*2:67 1:9 e*4:6b",
   "6d*2:76 1:9 e*4:7a 4d*2:dc 1c:dc 2:dc 2:d8 38:81 1:82 2:84 6*4:82 3:82 2*2:e6 1:9 2*2:e6",
   "3f:dc 71:7 2*2:9 53:dc 2d0*3:e6 3b5*2:9 1f:9 9e:9 b:e6 cc:e4 90:de 1:e6 1:dc dc:e6 1:dc",
   "48:9 15*8:e6 3:dc 31*5:e6 1*6:dc 1*2:e6 1:dc 2*2:dc 1*2:e6 1*2:dc 1*5:e6 1:dc 1*12:e6 1:dc",
   "3*6:e6 1:dc 1*4:e6 1:ea 49:7 10:9 27:e6 1:dc 1*7:e6 37*2:9 3b:7 c*2:9 44:7 99*3:e6 2:1",
   "1*5:dc 1*2:e6 1*4:dc 1:e6 2*7:1 5:dc 7:e6 4*2:e6 c7*2:e6 1:dc 1*7:e6 1:dc 1*2:e6 1:ea 1:d6",
   "1:dc 1:ca 1*25:e6 1:e8 1*2:e4 1:dc 1:da 1:e6 1:e9 1:dc 1:e6 1:dc 2d1*2:e6 1*2:1 1*4:e6",
   "1*3:1 1*2:e6 5:e6 4*2:1 1:e6 1:dc 1:e6 1*2:1 1*4:dc 1:e6 bff*3:e6 8e:9 61*20:e6 22b:da 1:e4",
   "1:e8 1:de 1*2:e0 6a*2:8 75d5:e6 5*a:e6 21*2:e6 51*2:e6 115:9 26:9 98:9 1c*12:e6 3a*3:dc",
   "26:9 60:7 d:9 f0:e6 2*2:e6 1:dc 3*2:e6 6*2:e6 2:e6 35:9 f7:9 4f31:1a 302*7:e6 1*7:dc 1*2:e6",
   "3ce:dc e3:dc 96*5:e6 693:dc 2:e6 29:e6 1:1 1:dc 5:9 a6:e6 1:dc 23e*4:e6 42*5:e6 13e*2:e6",
   "4e*2:dc 2*3:dc 47*2:dc 1*3:e6 1:dc 1:e6 1*4:dc 32:e6 1:dc 1:e6 1:dc c1:9 2a:9 f:9 3a:9 1:7",
   "46*3:e6 31*2:9 3f:7 4d:9 a:7 6b:9 1:7 b3:7 1:9 51*2:7 11:9 19*7:e6 4*5:e6 5a*3:9 72:9 4:7",
   "18:e6 64:9 1:7 fc:9 1:7 7f:9 77:9 1:7 74:9 10e:9 1:7 103*2:9 5:7 9d:9 54:9 13:9 52:9 1a6:9",
   "103:7 2*2:9 52:9 1aa*2:9 41ed:9 9c1*5:1 3c*7:e6 4ba*2:6 4cad:1 14c7*2:d8 1*3:1 4:e2 1*5:d8",
   "9*8:dc 3*5:e6 1*2:dc 1f*4:e6 95*3:e6 dbc*7:e6 2*11:e6 3*7:e6 2*2:e6 2*5:e6 65:e6 a1*7:e6",
   "178:e6 3e*4:e6 1fd*2:e8 1:dc 1:e6 ff:e6 1:dc f4:e6 3:e6 8*2:e6 6:e6 1db*7:dc 6e*6:e6 1:7"]

/-- The classes other than zero. -/
def combiningClasses : Table Nat := Table.ofLines combiningClassLines fun _ value => hexNumber value

/-- The combining class of a character. -/
def combiningClass (c : Char) : Nat := (combiningClasses.value? c).getD 0

/-- The class of signs that silence the vowel of the letter before them. -/
def viramaClass : Nat := 9

/-- Whether a character is such a sign. -/
def isVirama (c : Char) : Bool := combiningClass c == viramaClass

end PoolExit.Unicode
