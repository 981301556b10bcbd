/-!
# Blank characters

A blank is a character with the Unicode property `White_Space`; surrounding blanks never matter
in keys, numbers, addresses and file contents.  `trim` takes them off both ends and nothing else.
-/

namespace PoolExit.Text

/-- The characters with the Unicode property `White_Space`. -/
def isBlank (c : Char) : Bool :=
  let n := c.toNat
  (0x9 ≤ n && n ≤ 0xD) || n == 0x20 || n == 0x85 || n == 0xA0 || n == 0x1680
    || (0x2000 ≤ n && n ≤ 0x200A) || n == 0x2028 || n == 0x2029 || n == 0x202F
    || n == 0x205F || n == 0x3000

/-- Takes the blanks off both ends of a list of characters. -/
def trimChars (cs : List Char) : List Char :=
  ((cs.dropWhile isBlank).reverse.dropWhile isBlank).reverse

/-- Takes the blanks off both ends of a text. -/
def trim (s : String) : String := String.ofList (trimChars s.toList)

/-- A text without any character, or of blanks only. -/
def blank (s : String) : Bool := s.toList.all isBlank

end PoolExit.Text
