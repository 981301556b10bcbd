import PoolExit.Number.Binary64

/-!
# JSON values

A number is an integer that fits 64 bits, signed or unsigned, or else a number in binary
floating point.  The members of an object are kept in the order of their names, each name once;
`Json.insert` keeps that order and replaces an older member of the same name.
-/

namespace PoolExit

/-- A JSON value. -/
inductive Json where
  | null
  | bool (value : Bool)
  | int (value : Int)
  | float (negative : Bool) (magnitude : Binary64)
  | string (value : String)
  | array (elements : List Json)
  | object (members : List (String × Json))
deriving Inhabited

namespace Json

/-- Puts a member into a list of members in the order of their names. -/
def insert (name : String) (value : Json) : List (String × Json) → List (String × Json)
  | [] => [(name, value)]
  | (n, v) :: rest =>
    if name = n then (name, value) :: rest
    else if name < n then (name, value) :: (n, v) :: rest
    else (n, v) :: insert name value rest

/-- An object of the given members; of several with one name the last one counts. -/
def ofMembers (members : List (String × Json)) : Json :=
  .object (members.foldl (fun acc m => insert m.1 m.2 acc) [])

/-- The members, if the value is an object. -/
def members? : Json → Option (List (String × Json))
  | .object members => some members
  | _ => none

/-- The member of the given name, if the value is an object that has it. -/
def get? (name : String) : Json → Option Json
  | .object members => members.lookup name
  | _ => none

/-- The text, if the value is a string. -/
def string? : Json → Option String
  | .string s => some s
  | _ => none

/-- The elements, if the value is an array. -/
def array? : Json → Option (List Json)
  | .array xs => some xs
  | _ => none

/-- The truth value, if the value is one. -/
def bool? : Json → Option Bool
  | .bool b => some b
  | _ => none

/-- The number, if the value is an integer that fits 64 bits unsigned. -/
def uint64? : Json → Option UInt64
  | .int n => if 0 ≤ n ∧ n < 18446744073709551616 then some (UInt64.ofNat n.toNat) else none
  | _ => none

/-- Whether the value is `null`. -/
def isNull : Json → Bool
  | .null => true
  | _ => false

/-- The name of the kind of a value. -/
def kindName : Json → String
  | .null => "null"
  | .bool _ => "bool"
  | .int _ => "number"
  | .float .. => "number"
  | .string _ => "string"
  | .array _ => "array"
  | .object _ => "object"

/-- A 64-bit number. -/
def ofUInt64 (n : UInt64) : Json := .int n.toNat

/-- A natural number. -/
def ofNat (n : Nat) : Json := .int n

/-- A value, or `null` where there is none. -/
def ofOption (f : α → Json) : Option α → Json
  | some a => f a
  | none => .null

end Json

end PoolExit
