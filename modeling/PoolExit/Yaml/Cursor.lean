/-!
# A place in a YAML text

A cursor is what is left of a text, with the line and the column where it starts.  Besides the line
feed and the carriage return, three more characters end a line; a carriage return and a line feed
together end one line only.
-/

namespace PoolExit.Yaml

/-- Why a text is no YAML document, and where. -/
structure Fault where
  reason : String
  line : Nat
  column : Nat
deriving DecidableEq, Repr

/-- The wording of a fault; lines and columns count from one. -/
def Fault.message (f : Fault) : String :=
  s!"{f.reason} at line {f.line + 1} column {f.column + 1}"

/-- What is left of a text. -/
structure Cursor where
  rest : List Char
  /-- The number of bytes before it. -/
  index : Nat := 0
  line : Nat := 0
  column : Nat := 0
deriving DecidableEq

/-- The number of bytes of a text in UTF-8. -/
def byteLength : List Char → Nat
  | [] => 0
  | c :: cs => c.utf8Size + byteLength cs

/-- Spaces and tabs. -/
def isBlank (c : Char) : Bool := c == ' ' || c == '\t'

/-- Characters that end a line. -/
def isBreak (c : Char) : Bool :=
  c == '\n' || c == '\r' || c == '\u0085' || c == '\u2028' || c == '\u2029'

/-- Whether a place is at a blank, at the end of a line or at the end of the text. -/
def endsWord : Option Char → Bool
  | none => true
  | some c => isBlank c || isBreak c

/-- Characters of names: of anchors, directives and tag handles. -/
def isNameChar (c : Char) : Bool := c.isAlphanum || c == '_' || c == '-'

namespace Cursor

/-- A fault at a place. -/
def fault {α : Type} (c : Cursor) (reason : String) : Except Fault α :=
  .error ⟨reason, c.line, c.column⟩

/-- The character at a place. -/
def head? (c : Cursor) : Option Char := c.rest.head?

/-- The character `n` places further on. -/
def peek? (c : Cursor) (n : Nat) : Option Char := c.rest[n]?

/-- Whether a place holds the given character. -/
def holds (c : Cursor) (d : Char) : Bool := c.head? == some d

/-- Goes past `n` characters within a line. -/
def skip (c : Cursor) (n : Nat := 1) : Cursor :=
  { c with
    rest := c.rest.drop n
    index := c.index + byteLength (c.rest.take n)
    column := c.column + n }

/-- Goes past the end of a line. -/
def skipBreak (c : Cursor) : Cursor :=
  match c.rest with
  | '\r' :: '\n' :: rest => ⟨rest, c.index + 2, c.line + 1, 0⟩
  | d :: rest => if isBreak d then ⟨rest, c.index + d.utf8Size, c.line + 1, 0⟩ else c
  | [] => c

/-- The end of a line as it counts in a scalar. -/
def breakText (c : Cursor) : List Char :=
  match c.head? with
  | some '\u2028' => ['\u2028']
  | some '\u2029' => ['\u2029']
  | some _ => ['\n']
  | none => []

/-- The characters of a class, and what follows them; the class holds no ends of lines. -/
def span (c : Cursor) (p : Char → Bool) : List Char × Cursor :=
  let taken := c.rest.takeWhile p
  (taken, c.skip taken.length)

/-- Goes past blanks. -/
def skipBlanks (c : Cursor) : Cursor := (c.span isBlank).2

/-- Goes past a comment, if there is one. -/
def skipComment (c : Cursor) : Cursor :=
  if c.holds '#' then (c.span fun d => !isBreak d).2 else c

/-- Goes past a byte order mark at the start of a line; it counts as a column. -/
def skipByteOrderMark (c : Cursor) : Cursor :=
  if c.column == 0 && c.holds '\ufeff' then c.skip else c

/-- Whether a place holds one of the two marks between documents: three of the given characters at
the start of a line, with nothing joined to them. -/
def atMark (c : Cursor) (d : Char) : Bool :=
  c.column == 0 && c.rest.take 3 == [d, d, d] && endsWord (c.peek? 3)

/-- Whether a place holds a mark between documents. -/
def atDocumentMark (c : Cursor) : Bool := c.atMark '-' || c.atMark '.'

end Cursor

end PoolExit.Yaml
