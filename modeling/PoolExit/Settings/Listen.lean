import PoolExit.Text.Digits
import PoolExit.Text.Blank

/-!
# Addresses to listen at

An address is an IP address of version 4, or one of version 6 in brackets, and a port behind a
colon.  Each reader takes what it can off the front of a text.
-/

namespace PoolExit.Listen

open Text

/-- Reads something off the front of a text. -/
abbrev Reader (α : Type) := List Char → Option (α × List Char)

/-- Reads one given character. -/
def readChar (c : Char) : Reader Unit
  | [] => none
  | d :: rest => if c = d then some ((), rest) else none

/-- Reads a number of at most `bound`, of at most `width` digits; unless `zeros` is set, it has no
zeros in front. -/
def readNumber (base bound : Nat) (width : Option Nat) (zeros : Bool) : Reader Nat := fun cs =>
  let digits := cs.takeWhile fun c => (digitValue? base c).isSome
  let tooWide := match width with
    | some w => w < digits.length
    | none => false
  if digits.isEmpty || tooWide || (!zeros && digits.head? = some '0' && 1 < digits.length) then none
  else match readDigits base bound 0 digits with
    | .ok n => some (n, cs.drop digits.length)
    | .error _ => none

/-- Reads four numbers of one byte with points between them. -/
def readV4 : Reader Unit := fun cs => do
  let octet := readNumber 10 maxUInt8 (some 3) false
  let (_, cs) ← octet cs
  let (_, cs) ← readChar '.' cs
  let (_, cs) ← octet cs
  let (_, cs) ← readChar '.' cs
  let (_, cs) ← octet cs
  let (_, cs) ← readChar '.' cs
  let (_, cs) ← octet cs
  return ((), cs)

/-- Reads a part of an address of version 6; there is a colon before every part but the first. -/
def readPart {α : Type} (isFirst : Bool) (part : Reader α) : Reader α := fun cs =>
  if isFirst then part cs
  else do
    let (_, cs) ← readChar ':' cs
    part cs

/-- Reads up to `limit` groups of an address of version 6.  An address of version 4 may stand for
the last two.  Gives the number of groups, and whether the last two were such an address. -/
def readGroups : (limit : Nat) → (read : Nat) → List Char → Nat × Bool × List Char
  | 0, read, cs => (read, false, cs)
  | limit + 1, read, cs =>
    let embedded := if limit = 0 then none else readPart (read = 0) readV4 cs
    match embedded with
    | some (_, cs) => (read + 2, true, cs)
    | none => match readPart (read = 0) (readNumber 16 maxUInt16 (some 4) true) cs with
      | some (_, cs) => readGroups limit (read + 1) cs
      | none => (read, false, cs)

/-- Reads an address of version 6; two colons stand for groups of zeros, at least one. -/
def readV6 : Reader Unit := fun cs =>
  let (groups, embedded, rest) := readGroups 8 0 cs
  if groups = 8 then some ((), rest)
  else if embedded then none
  else do
    let (_, rest) ← readChar ':' rest
    let (_, rest) ← readChar ':' rest
    let (_, _, rest) := readGroups (7 - groups) 0 rest
    return ((), rest)

/-- Reads a port behind its colon. -/
def readPort : Reader Unit := fun cs => do
  let (_, cs) ← readChar ':' cs
  let (_, cs) ← readNumber 10 maxUInt16 none true cs
  return ((), cs)

/-- Reads the zone of an address of version 6, if there is one. -/
def readZone : Reader Unit := fun cs =>
  match readChar '%' cs with
  | none => some ((), cs)
  | some (_, cs) => (readNumber 10 maxUInt32 none true cs).map fun (_, cs) => ((), cs)

/-- Reads an address of version 4 with a port. -/
def readSocketV4 : Reader Unit := fun cs => do
  let (_, cs) ← readV4 cs
  readPort cs

/-- Reads an address of version 6 in brackets with a port. -/
def readSocketV6 : Reader Unit := fun cs => do
  let (_, cs) ← readChar '[' cs
  let (_, cs) ← readV6 cs
  let (_, cs) ← readZone cs
  let (_, cs) ← readChar ']' cs
  readPort cs

/-- Whether a text, without surrounding blanks, is an address to listen at. -/
def isAddress (s : String) : Bool :=
  let cs := trimChars s.toList
  let whole := fun (r : Option (Unit × List Char)) =>
    (r.map fun (_, rest) => rest.isEmpty) = some true
  whole (readSocketV4 cs) || whole (readSocketV6 cs)

/-- The complaint about a text that is no address. -/
def complaint (s : String) : String := s!"invalid prometheus listen address: {s}"

end PoolExit.Listen
