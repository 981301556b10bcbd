import PoolExit.Text.Digits
import PoolExit.Yaml.Cursor

/-!
# Tags

A tag says what a node stands for.  It is written with a handle, which names the start of the tag, or
in full between angle brackets.  Bytes may be written as percent signs with two hexadecimal digits
each, and then they must begin and go on as characters of UTF-8 do; what they encode need not be a
character, so a tag is a string of bytes.  A zero byte ends it.
-/

namespace PoolExit.Yaml

/-- A tag, or a part of one. -/
abbrev Tag := List UInt8

namespace Tag

/-- The tag of the given text. -/
def ofString (s : String) : Tag := s.toUTF8.toList

/-- The start of the tags of the standard. -/
def standardStart : String := "tag:yaml.org,2002:"

/-- The tag of integers. -/
def int : Tag := ofString (standardStart ++ "int")

/-- The tag of truth values. -/
def bool : Tag := ofString (standardStart ++ "bool")

/-- The tag of nothing. -/
def null : Tag := ofString (standardStart ++ "null")

/-- The tag of fractional numbers. -/
def float : Tag := ofString (standardStart ++ "float")

/-- Whether a tag of the standard says that a scalar is something other than text. -/
def saysOtherThanText (t : Tag) : Bool :=
  t == int || t == bool || t == null || t == float

/-- The tag that is an exclamation mark and nothing else. -/
def mark : Tag := ofString "!"

/-- Whether a tag starts with an exclamation mark. -/
def startsWithMark (t : Tag) : Bool := t.head? == some 0x21

/-- The name behind the exclamation mark of a tag, where it is text. -/
def name? (t : Tag) : Option String :=
  if t.startsWithMark then String.fromUTF8? ⟨(t.drop 1).toArray⟩ else none

/-! ## Reading tags -/

/-- How many bytes a character takes that starts with the given byte. -/
def leadingWidth? (b : Nat) : Option Nat :=
  if b < 0x80 then some 1
  else if 0xC0 ≤ b && b < 0xE0 then some 2
  else if 0xE0 ≤ b && b < 0xF0 then some 3
  else if 0xF0 ≤ b && b < 0xF8 then some 4
  else none

/-- Reads a percent sign and two hexadecimal digits. -/
def readOctet (c : Cursor) : Except Fault (Nat × Cursor) :=
  match c.rest with
  | '%' :: a :: b :: _ =>
    match Text.digitValue? 16 a, Text.digitValue? 16 b with
    | some high, some low => .ok (16 * high + low, c.skip 3)
    | _, _ => c.fault "did not find URI escaped octet"
  | _ => c.fault "did not find URI escaped octet"

/-- Reads the remaining bytes of a character. -/
def readTrailing : (count : Nat) → Tag → Cursor → Except Fault (Tag × Cursor)
  | 0, acc, c => .ok (acc, c)
  | count + 1, acc, c =>
    match readOctet c with
    | .error e => .error e
    | .ok (b, after) =>
      if 0x80 ≤ b && b < 0xC0 then readTrailing count (acc ++ [UInt8.ofNat b]) after
      else c.fault "found an incorrect trailing UTF-8 octet"

/-- Reads the bytes of a character from percent signs. -/
def readEscaped (c : Cursor) : Except Fault (Tag × Cursor) :=
  match readOctet c with
  | .error e => .error e
  | .ok (b, after) =>
    match leadingWidth? b with
    | some width => readTrailing (width - 1) [UInt8.ofNat b] after
    | none => c.fault "found an incorrect leading UTF-8 octet"

/-- Characters of tags that stand for themselves; more of them between angle brackets. -/
def isTagChar (bracketed : Bool) (c : Char) : Bool :=
  isNameChar c || ";/?:@&=+$.!~*'()".toList.contains c
    || (bracketed && (c == ',' || c == '[' || c == ']'))

/-- Reads the characters of a tag on to the bytes so far. -/
def readChars (bracketed : Bool) :
    (fuel : Nat) → Tag → Cursor → Except Fault (Tag × Cursor)
  | 0, acc, c => .ok (acc, c)
  | fuel + 1, acc, c =>
    match c.head? with
    | some '%' =>
      match readEscaped c with
      | .error e => .error e
      | .ok (bytes, c) => readChars bracketed fuel (acc ++ bytes) c
    | some d =>
      if isTagChar bracketed d then readChars bracketed fuel (acc ++ [UInt8.ofNat d.toNat]) c.skip
      else .ok (acc, c)
    | none => .ok (acc, c)

/-- Reads what follows the handle of a tag, or of a directive; `start` has been read already, and both
together must not be empty. -/
def readRest (bracketed : Bool) (start : List Char) (c : Cursor) : Except Fault (Tag × Cursor) :=
  match readChars bracketed (c.rest.length + 1) (ofString (String.ofList start)) c with
  | .error e => .error e
  | .ok (bytes, c) =>
    if bytes.isEmpty then c.fault "did not find expected tag URI"
    else .ok (bytes.takeWhile (· ≠ 0), c)

/-- Reads a handle: an exclamation mark, or a name between two of them.  The second mark may be
missing; then there is no handle but the first mark, and the name belongs to the rest of the tag. -/
def readHandle (c : Cursor) : List Char × Cursor :=
  let (name, after) := c.skip.span isNameChar
  if after.holds '!' then ('!' :: name ++ ['!'], after.skip) else ('!' :: name, after)

/-- Reads a tag: its handle, which is empty for a tag written in full, and the rest. -/
def read (c : Cursor) : Except Fault (String × Tag × Cursor) :=
  if c.peek? 1 == some '<' then
    match readRest true [] (c.skip 2) with
    | .error e => .error e
    | .ok (rest, c) =>
      if c.holds '>' then .ok ("", rest, c.skip) else c.fault "did not find the expected '>'"
  else
    let (handle, after) := readHandle c
    if 2 ≤ handle.length && handle.getLast? == some '!' then
      (readRest false [] after).map fun (rest, c) => (String.ofList handle, rest, c)
    else if handle.length = 1 && !(after.head?.any fun d => d == '%' || isTagChar false d) then
      .ok ("", mark, after)
    else
      (readRest false (handle.drop 1) after).map fun (rest, c) =>
        if rest.isEmpty then ("", mark, c) else ("!", rest, c)

end Tag

end PoolExit.Yaml
