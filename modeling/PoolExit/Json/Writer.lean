import PoolExit.Json.Value
import PoolExit.Number.Shortest
import PoolExit.Text.Hex

/-!
# Writing JSON text

`Json.compact` writes a value without any white space, `Json.pretty` with one element or member a
line, indented by two spaces a level.  Characters outside ASCII are written as they are.
-/

namespace PoolExit.Json

open Text

/-- Numbers from `1e-5` to below `1e16` are written positionally. -/
def floatLayout : Decimal.Layout := ⟨-5, 15⟩

/-- The text of a number in floating point. -/
def floatText (negative : Bool) (magnitude : Binary64) : String :=
  (if negative then "-" else "")
    ++ if magnitude.mantissa = 0 then "0.0"
      else ((Decimal.shortest magnitude).normalize 20).text floatLayout

/-- A character inside a string: quotes, backslashes and control characters are escaped. -/
def escaped (c : Char) : List Char :=
  if c = '"' then ['\\', '"']
  else if c = '\\' then ['\\', '\\']
  else if c = '\n' then ['\\', 'n']
  else if c = '\r' then ['\\', 'r']
  else if c = '\t' then ['\\', 't']
  else if c = '\x08' then ['\\', 'b']
  else if c = '\x0c' then ['\\', 'f']
  else if c.toNat < 0x20 then
    ['\\', 'u', '0', '0', hexDigit (c.toNat / 16), hexDigit (c.toNat % 16)]
  else [c]

/-- A string between quotes. -/
def quote (s : String) : String := "\"" ++ String.ofList (s.toList.flatMap escaped) ++ "\""

mutual

/-- The text of a value without white space. -/
def compact : Json → String
  | .null => "null"
  | .bool true => "true"
  | .bool false => "false"
  | .int n => toString n
  | .float negative magnitude => floatText negative magnitude
  | .string s => quote s
  | .array xs => "[" ++ compactElements xs ++ "]"
  | .object members => "\x7b" ++ compactMembers members ++ "\x7d"

/-- The elements of an array with commas between them. -/
def compactElements : List Json → String
  | [] => ""
  | [x] => compact x
  | x :: y :: rest => compact x ++ "," ++ compactElements (y :: rest)

/-- The members of an object with commas between them. -/
def compactMembers : List (String × Json) → String
  | [] => ""
  | [(n, v)] => quote n ++ ":" ++ compact v
  | (n, v) :: m :: rest => quote n ++ ":" ++ compact v ++ "," ++ compactMembers (m :: rest)

end

/-- The start of a line at a level of indentation. -/
def newLine (level : Nat) : String := "\n" ++ String.ofList (List.replicate (2 * level) ' ')

mutual

/-- The text of a value with line breaks; `level` is the indentation of the line it stands on. -/
def prettyAt (level : Nat) : Json → String
  | .array (x :: xs) =>
    "[" ++ newLine (level + 1) ++ prettyElements (level + 1) (x :: xs) ++ newLine level ++ "]"
  | .object (m :: ms) =>
    "\x7b" ++ newLine (level + 1) ++ prettyMembers (level + 1) (m :: ms) ++ newLine level ++ "\x7d"
  | .null => "null"
  | .bool true => "true"
  | .bool false => "false"
  | .int n => toString n
  | .float negative magnitude => floatText negative magnitude
  | .string s => quote s
  | .array [] => "[]"
  | .object [] => "\x7b\x7d"

/-- The elements of an array, a line each. -/
def prettyElements (level : Nat) : List Json → String
  | [] => ""
  | [x] => prettyAt level x
  | x :: y :: rest => prettyAt level x ++ "," ++ newLine level ++ prettyElements level (y :: rest)

/-- The members of an object, a line each. -/
def prettyMembers (level : Nat) : List (String × Json) → String
  | [] => ""
  | [(n, v)] => quote n ++ ": " ++ prettyAt level v
  | (n, v) :: m :: rest =>
    quote n ++ ": " ++ prettyAt level v ++ "," ++ newLine level ++ prettyMembers level (m :: rest)

end

/-- The text of a value with line breaks. -/
def pretty (v : Json) : String := prettyAt 0 v

end PoolExit.Json
