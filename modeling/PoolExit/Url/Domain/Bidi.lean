import PoolExit.Unicode.Direction

/-!
# Directions in domain names

A domain name with anything written from right to left must not be shown in a confusing way, so its
labels have to keep to the rule of RFC 5893: a label runs in the direction of its first character, ends
accordingly, and holds only what goes with that direction.
-/

namespace PoolExit.Url

open Unicode

/-- What makes a domain name one that runs from right to left. -/
def isRightToLeft (d : Direction) : Bool :=
  d == .rightToLeft || d == .arabicLetter || d == .arabicNumber

/-- What may stand in labels of both directions. -/
def isCommonDirection (d : Direction) : Bool :=
  [.europeanNumber, .sign, .separator, .numberMark, .neutral, .nonspacingMark].contains d

/-- What a label, given by the directions of its characters, ends in, apart from marks. -/
def lastDirection? (label : List Direction) : Option Direction :=
  (label.reverse.dropWhile (· == .nonspacingMark)).head?

/-- Whether a label that runs from left to right keeps to the rule. -/
def keepsLeftToRight (label : List Direction) : Bool :=
  label.all (fun d => d == .leftToRight || isCommonDirection d)
    && (lastDirection? label).any fun d => d == .leftToRight || d == .europeanNumber

/-- Whether a label that runs from right to left keeps to the rule. -/
def keepsRightToLeft (label : List Direction) : Bool :=
  label.all (fun d => isRightToLeft d || isCommonDirection d)
    && (lastDirection? label).any (fun d => isRightToLeft d || d == .europeanNumber)
    && !(label.contains .europeanNumber && label.contains .arabicNumber)

/-- Whether a label keeps to the rule. -/
def keepsDirection (label : List Direction) : Bool :=
  match label.head? with
  | none => true
  | some .leftToRight => keepsLeftToRight label
  | some .rightToLeft | some .arabicLetter => keepsRightToLeft label
  | some _ => false

/-- Whether the labels of a domain name keep to the rule, where it applies. -/
def areReadable (labels : List (List Char)) : Bool :=
  let directions := labels.map fun label => label.map Direction.of
  !(directions.any fun label => label.any isRightToLeft) || directions.all keepsDirection

end PoolExit.Url
