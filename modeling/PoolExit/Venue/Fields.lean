import PoolExit.Venue.Error
import PoolExit.Json.Writer
import PoolExit.Text.Digits
import PoolExit.Text.Blank

/-!
# Fields of a listing

Endpoints spell one field in several ways.  A field is looked up under its names in order, and the
first one whose value is not `null` counts.  An address that is blank is no address, a missing or
blank amount is zero.
-/

namespace PoolExit

open Text

/-- A field: the name used in messages, and the names under which it may stand. -/
structure Field where
  title : String
  names : List String

namespace Field

/-- The value of the first name that has one other than `null`. -/
def value? (f : Field) (members : List (String × Json)) : Option Json :=
  (f.names.filterMap fun name => members.lookup name).find? fun v => !v.isNull

/-- The failure of a field with a bad value. -/
def invalid (f : Field) (value : String) : VenueError := .invalidField f.title value

/-- An address that need not be given. -/
def address? (f : Field) (members : List (String × Json)) : Except VenueError (Option Pubkey) :=
  match f.value? members with
  | none => .ok none
  | some (.string raw) =>
    if blank raw then .ok none
    else match Pubkey.read (trim raw) with
      | .ok key => .ok (some key)
      | .error _ => .error (f.invalid raw)
  | some other => .error (f.invalid other.compact)

/-- An address that has to be given. -/
def address (f : Field) (members : List (String × Json)) : Except VenueError Pubkey :=
  match f.address? members with
  | .ok (some key) => .ok key
  | .ok none => .error (.missingField f.title)
  | .error e => .error e

/-- An amount of at most 128 bits, as a number of 64 bits or as decimal text. -/
def amount (f : Field) (members : List (String × Json)) : Except VenueError Nat :=
  match f.value? members with
  | none => .ok 0
  | some (.string raw) =>
    if blank raw then .ok 0
    else match readUnsigned 10 maxUInt128 (trimChars raw.toList) with
      | .ok n => .ok n
      | .error _ => .error (f.invalid raw)
  | some other =>
    match other.uint64? with
    | some n => .ok n.toNat
    | none => .error (f.invalid other.compact)

end Field

end PoolExit
