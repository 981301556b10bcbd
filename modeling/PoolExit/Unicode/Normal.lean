import PoolExit.Unicode.CombiningClass
import PoolExit.Unicode.Composite

/-!
# The normal form of a text

One text can be written with different characters: a letter with an accent may be one character or two,
and two marks on a letter may come in either order.  `normalize` gives all such spellings the same
form, the one that is known as NFC: everything is taken apart, marks are put in order, and then what has
a composite is put together again.
-/

namespace PoolExit.Unicode

/-! ## Taking apart -/

/-- A character without the composites in it; at most `fuel` of them lie within each other. -/
def takeApart : (fuel : Nat) → Char → List Char
  | 0, c => [c]
  | fuel + 1, c =>
    match parts? c with
    | some (a, b) => takeApart fuel a ++ takeApart fuel b
    | none => [c]

/-- The greatest number of composites within each other. -/
def maxNesting : Nat := 4

/-! ## The order of marks -/

/-- Puts a character behind a text that is given from its end; a mark goes before marks of greater
classes. -/
def place (c : Char) : List Char → List Char
  | [] => [c]
  | d :: before =>
    if combiningClass c ≠ 0 ∧ combiningClass c < combiningClass d then d :: place c before
    else c :: d :: before

/-- A text with its marks in order. -/
def orderMarks (cs : List Char) : List Char := (cs.foldl (fun acc c => place c acc) []).reverse

/-! ## Putting together -/

/-- A text that is being put together. -/
structure Composing where
  /-- What is done, from its end. -/
  before : List Char := []
  /-- What marks can still go into. -/
  starter : Option Char := none
  /-- The marks behind it that have not gone into it, from their end. -/
  marks : List Char := []

namespace Composing

/-- What has been put together, from its end. -/
def done (s : Composing) : List Char := s.marks ++ s.starter.toList ++ s.before

/-- Whether the next character, of the given class, reaches past the marks behind the starter. -/
def reaches (s : Composing) (cls : Nat) : Bool :=
  match s.marks with
  | [] => true
  | mark :: _ => combiningClass mark < cls

/-- The composite of the starter and a character that reaches it. -/
def joined? (s : Composing) (c : Char) : Option Char :=
  if s.reaches (combiningClass c) then s.starter.bind fun starter => composite? starter c else none

/-- Takes in a character. -/
def take (s : Composing) (c : Char) : Composing :=
  match s.joined? c with
  | some composite => { s with starter := some composite }
  | none =>
    if combiningClass c = 0 then { before := s.done, starter := some c }
    else { s with marks := c :: s.marks }

end Composing

/-- Puts together what has a composite. -/
def putTogether (cs : List Char) : List Char := (cs.foldl Composing.take {}).done.reverse

/-- The normal form of a text. -/
def normalize (cs : List Char) : List Char :=
  putTogether (orderMarks (cs.flatMap (takeApart maxNesting)))

end PoolExit.Unicode
