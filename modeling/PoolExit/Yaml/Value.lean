import PoolExit.Number.Binary64
import PoolExit.Text.Digits
import PoolExit.Yaml.Node

/-!
# What scalars stand for

A plain scalar may stand for nothing, a truth value or a number; any other one, and every quoted one,
stands for its text.  Digits behind a leading zero are text.
-/

namespace PoolExit.Yaml

open Text

/-- Whether a text stands for nothing. -/
def isNullText (s : String) : Bool := ["null", "Null", "NULL", "~"].contains s

/-- The truth value of a text. -/
def boolOfText? (s : String) : Option Bool :=
  if ["true", "True", "TRUE"].contains s then some true
  else if ["false", "False", "FALSE"].contains s then some false
  else none

/-- Whether a text starts with a sign. -/
def startsWithSign : List Char → Bool
  | '+' :: _ | '-' :: _ => true
  | _ => false

/-- Whether a text, apart from a sign, is a zero followed by digits. -/
def isZeroPadded (cs : List Char) : Bool :=
  let digits := if startsWithSign cs then cs.drop 1 else cs
  match digits with
  | '0' :: d :: rest => (d :: rest).all Char.isDigit
  | _ => false

/-- The base that the start of a text names, and what follows. -/
def namedBase? : List Char → Option (Nat × List Char)
  | '0' :: 'x' :: rest => some (16, rest)
  | '0' :: 'o' :: rest => some (8, rest)
  | '0' :: 'b' :: rest => some (2, rest)
  | _ => none

/-- The number of a text in a named base; a sign may not stand behind the base. -/
def basedOfText? (bound : Nat) (cs : List Char) : Option Nat :=
  match namedBase? cs with
  | none => none
  | some (base, rest) =>
    if startsWithSign rest then none else (readUnsigned base bound rest).toOption

/-- The natural number, of at most `bound`, that a text stands for. -/
def unsignedOfText? (bound : Nat) (s : String) : Option Nat :=
  let cs := s.toList
  let unsigned := match cs with
    | '+' :: rest => rest
    | _ => cs
  match basedOfText? bound unsigned with
  | some n => some n
  | none =>
    if startsWithSign unsigned || isZeroPadded cs then none
    else (readUnsigned 10 bound unsigned).toOption

/-- Whether a text stands for a negative integer of a range whose lowest number is `-bound`. -/
def isNegativeText (bound : Nat) (s : String) : Bool :=
  match s.toList with
  | '-' :: rest =>
    (basedOfText? bound rest).isSome
      || (!isZeroPadded ('-' :: rest) && !startsWithSign rest
        && (readUnsigned 10 bound rest).toOption.isSome)
  | _ => false

/-- Reads the exponent of a fractional number. -/
def exponentOf? : List Char → Option Int
  | [] => some 0
  | c :: rest =>
    if c ≠ 'e' && c ≠ 'E' then none
    else
      let (negative, digits) := match rest with
        | '-' :: ds => (true, ds)
        | '+' :: ds => (false, ds)
        | ds => (false, ds)
      if digits.isEmpty || !digits.all Char.isDigit then none
      else
        let n : Int := digits.foldl (fun acc d => 10 * acc + (d.toNat - 48)) 0
        some (if negative then -n else n)

/-- Whether a decimal number, of the given digits times a power of ten, is finite in binary
floating point. -/
def isFinite (digits : Nat) (exponent : Int) : Bool :=
  if digits = 0 then true
  else
    let size := (Nat.toDigits 10 digits).length + exponent
    if 400 < size then false
    else if size < -400 then true
    else
      let (num, den) :=
        if 0 ≤ exponent then (digits * Nat.pow 10 exponent.toNat, 1)
        else (digits, Nat.pow 10 (-exponent).toNat)
      (Binary64.nearest num den).isSome

/-- Whether a text stands for a fractional number. -/
def isFloatText (s : String) : Bool :=
  if [".inf", ".Inf", ".INF", "+.inf", "+.Inf", "+.INF", "-.inf", "-.Inf", "-.INF",
      ".nan", ".NaN", ".NAN"].contains s then true
  else
    let unsigned := match s.toList with
      | '+' :: rest => if startsWithSign rest then [] else rest
      | '-' :: rest => rest
      | cs => cs
    let whole := unsigned.takeWhile Char.isDigit
    let (fraction, rest) := match unsigned.drop whole.length with
      | '.' :: rest => (rest.takeWhile Char.isDigit, rest.dropWhile Char.isDigit)
      | rest => ([], rest)
    match exponentOf? rest with
    | none => false
    | some exponent =>
      let digits := whole ++ fraction
      !digits.isEmpty && isFinite
        (digits.foldl (fun acc d => 10 * acc + (d.toNat - 48)) 0)
        (exponent - fraction.length)

/-- The lowest 128-bit integer, without its sign. -/
def maxNegative128 : Nat := 170141183460469231731687303715884105728

/-- Whether a plain scalar of this text stands for its text. -/
def isPlainText (s : String) : Bool :=
  !s.isEmpty && !isNullText s && (boolOfText? s).isNone
    && (unsignedOfText? maxUInt128 s).isNone && !isNegativeText maxNegative128 s
    && (isZeroPadded s.toList || !isFloatText s)

namespace Node

/-- The node that a node stands for. -/
def follow (d : Document) : Node → Node
  | .alias n => (d.anchored.lookup n).getD missing
  | node => node

/-- A fault of a value. -/
def fault {α : Type} (reason : String) : Except Fault α := .error ⟨reason, 0, 0⟩

/-- The text of a scalar that may stand for a number or a truth value: plain ones do, and literal
ones that carry the tag. -/
def literal? (expected : Tag) : Node → Option String
  | .scalar text .plain _ => some text
  | .scalar text .literal (some tag) => if tag == expected then some text else none
  | _ => none

/-- Reads a natural number of at most `bound`. -/
def unsigned (bound : Nat) (d : Document) (n : Node) : Except Fault Nat :=
  match ((n.follow d).literal? Tag.int).bind (unsignedOfText? maxUInt64) with
  | some v => if v ≤ bound then .ok v else fault "number out of range"
  | none => fault "expected a number"

/-- Reads a truth value. -/
def bool (d : Document) (n : Node) : Except Fault Bool :=
  match ((n.follow d).literal? Tag.bool).bind boolOfText? with
  | some b => .ok b
  | none => fault "expected a boolean"

/-- Reads a text; the text of any scalar will do. -/
def string (d : Document) (n : Node) : Except Fault String :=
  match n.follow d with
  | .scalar text _ _ => .ok text
  | _ => fault "expected a string"

/-- Whether a node stands for nothing. -/
def isNothing (d : Document) (n : Node) : Except Fault Bool :=
  match n.follow d with
  | .scalar text .plain none => .ok (text.isEmpty || isNullText text)
  | .scalar text .plain (some tag) =>
    if tag == Tag.null then (if isNullText text then .ok true else fault "expected null")
    else .ok false
  | _ => .ok false

/-- Reads a value that may be missing. -/
def optional {α : Type} (read : Document → Node → Except Fault α) (d : Document) (n : Node) :
    Except Fault (Option α) :=
  match n.isNothing d with
  | .error e => .error e
  | .ok true => .ok none
  | .ok false => (read d n).map some

/-- Reads a text that stands for nothing but its text. -/
def onlyString (d : Document) (n : Node) : Except Fault String :=
  match n.follow d with
  | .scalar text style tag =>
    let accepted : Bool := match tag with
      | none => style ≠ .plain || isPlainText text
      | some tag =>
        tag.name?.isNone && !tag.saysOtherThanText
          && (!tag.startsWithMark || style ≠ .plain || isPlainText text)
    if accepted then .ok text else fault "expected a string"
  | _ => fault "expected a string"

/-- Reads a list, by a reader for its items. -/
def list {α : Type} (read : Document → Node → Except Fault α) (d : Document) (n : Node) :
    Except Fault (List α) :=
  match n.follow d with
  | .sequence items tag =>
    if (tag.bind Tag.name?).isSome then fault "expected a sequence" else items.mapM (read d)
  | _ => fault "expected a sequence"

/-- Reads the members of a mapping; an empty plain scalar counts as an empty mapping. -/
def members (d : Document) (n : Node) : Except Fault (List (String × Node)) :=
  match n.follow d with
  | .mapping pairs _ => pairs.mapM fun (key, value) => (key.string d).map fun name => (name, value)
  | .scalar "" .plain _ => .ok []
  | _ => fault "expected a mapping"

/-- Reads a choice by its name, or by a tag in the place of the name. -/
def choice {α : Type} (find : String → Option α) (d : Document) (n : Node) : Except Fault α :=
  let chosen := fun (name : String) =>
    match find name with
    | some a => .ok a
    | none => fault "unknown variant"
  match n.follow d with
  | .scalar text style tag =>
    match tag.bind Tag.name? with
    | some name =>
      if style == .plain && (text.isEmpty || isNullText text) then chosen name
      else fault "expected null"
    | none => chosen text
  | _ => fault "expected a variant"

end Node

end PoolExit.Yaml
