import PoolExit.Text.Cut
import PoolExit.Text.Digits

/-!
# Tables of characters

Properties of characters are kept as runs of characters that share a value, ascending and apart.  They
are written as lines of items, one item for each run: how far its first character lies behind the last one of the
run before, then, unless it is the only one, the number of its characters behind a sign, and a value
behind a colon.  All numbers are hexadecimal.
-/

namespace PoolExit.Unicode

open Text

/-- How the value of a run goes with its characters. -/
inductive Spread where
  /-- The value moves along with the characters. -/
  | each
  /-- Only every second character belongs to the run, and the value moves along. -/
  | second
  /-- All characters have the same value. -/
  | same
deriving DecidableEq, Repr

/-- How a sign in front of the number of characters is to be taken. -/
def Spread.ofSign : Char → Option Spread
  | '*' => some .each
  | '/' => some .second
  | '=' => some .same
  | _ => none

/-- Characters in a row with a value. -/
structure Run (α : Type) where
  first : Nat
  last : Nat
  value : α

/-- Runs of characters, ascending and apart. -/
abbrev Table (α : Type) := Array (Run α)

/-- The number that hexadecimal digits stand for. -/
def hexNumber (digits : List Char) : Nat :=
  digits.foldl (fun n d => 16 * n + (digitValue? 16 d).getD 0) 0

/-- The characters of hexadecimal numbers with points between them. -/
def dottedChars (cs : List Char) : List Char :=
  (cutAt '.' cs).map fun digits => Char.ofNat (hexNumber digits)

/-- Reads an item behind a run that ends at `last`. -/
def Run.ofItem {α : Type} (value : Spread → List Char → α) (last : Nat) (item : List Char) : Run α :=
  let isDigit := fun d => (digitValue? 16 d).isSome
  let first := last + hexNumber (item.takeWhile isDigit)
  let rest := item.dropWhile isDigit
  match rest.head?.bind Spread.ofSign with
  | some spread =>
    let count := hexNumber ((rest.drop 1).takeWhile isDigit)
    let distance := if spread = .second then 2 * (count - 1) else count - 1
    ⟨first, first + distance, value spread (((rest.drop 1).dropWhile isDigit).drop 1)⟩
  | none => ⟨first, first, value .each (rest.drop 1)⟩

namespace Table

variable {α : Type}

/-- The table that lines of items stand for. -/
def ofLines (lines : List String) (value : Spread → List Char → α) : Table α :=
  ((lines.flatMap fun line => cutAt ' ' line.toList).foldl (fun (runs, last) item =>
    let run := Run.ofItem value last item
    (runs.push run, run.last)) ((#[], 0) : Array (Run α) × Nat)).1

/-- Looks for the run of a character among those from `low` up to, but without, `high`. -/
def search (t : Table α) (c : Char) (low high : Nat) : Option (Run α) :=
  if low < high then
    let middle := (low + high) / 2
    match t[middle]? with
    | none => none
    | some run =>
      if c.toNat < run.first then search t c low middle
      else if run.last < c.toNat then search t c (middle + 1) high
      else some run
  else none
termination_by high - low

/-- The run that a character belongs to. -/
def run? (t : Table α) (c : Char) : Option (Run α) := t.search c 0 t.size

/-- The value of a character. -/
def value? (t : Table α) (c : Char) : Option α := (t.run? c).map Run.value

end Table

end PoolExit.Unicode
