import PoolExit.Json.Skip
import PoolExit.Text.Blank

/-!
# Values written as text

Some values are written as text in a member of an object: addresses, and numbers that may be larger
than what JSON readers take.  The object has exactly one such member and possibly others, which are
passed over; a list with the text as its only element stands for the object.
-/

namespace PoolExit.TextMember

/-- Why there is no value. -/
inductive Error where
  /-- The JSON text, or what it holds, has the wrong shape. -/
  | malformed
  /-- The text is there, but stands for no value. -/
  | refused (reason : String)
deriving DecidableEq, Repr

/-- The wording of a refusal. -/
def Error.message : Error → String
  | .malformed => "malformed"
  | .refused reason => s!"parse error: {reason}"

variable {α : Type}

/-- Reads a string off the front of a text and takes it, without surrounding blanks, for a value. -/
def readText (parse : String → Except String α) (cs : List Char) :
    Except Error (α × List Char) :=
  match Json.skipSpace cs with
  | '"' :: rest => match Json.readString rest.length [] rest with
    | .error _ => .error .malformed
    | .ok (s, rest) => match parse (Text.trim s) with
      | .ok a => .ok (a, rest)
      | .error reason => .error (.refused reason)
  | _ => .error .malformed

/-- Reads the remaining members of an object; `found` is the value, once it has been read. -/
def readMembers (name : String) (parse : String → Except String α) :
    (fuel : Nat) → Option α → List Char → Except Error (α × List Char)
  | 0, _, _ => .error .malformed
  | fuel + 1, found, cs =>
    match Json.skipSpace cs with
    | '"' :: rest =>
      match Json.readString rest.length [] rest with
      | .error _ => .error .malformed
      | .ok (key, rest) =>
        match Json.skipSpace rest with
        | ':' :: rest =>
          let member : Except Error (Option α × List Char) :=
            if key = name then
              if found.isSome then .error .malformed
              else (readText parse rest).map fun (a, rest) => (some a, rest)
            else match Json.skipValue rest with
              | .error _ => .error .malformed
              | .ok rest => .ok (found, rest)
          match member with
          | .error e => .error e
          | .ok (found, rest) =>
            match Json.skipSpace rest, found with
            | ',' :: rest, found => readMembers name parse fuel found rest
            | '\x7d' :: rest, some a => .ok (a, rest)
            | _, _ => .error .malformed
        | _ => .error .malformed
    | _ => .error .malformed

/-- Reads the value of the member `name`. -/
def read (name : String) (parse : String → Except String α) (text : String) : Except Error α :=
  let outcome := match Json.skipSpace text.toList with
    | '\x7b' :: rest => readMembers name parse rest.length none rest
    | '[' :: rest => match readText parse rest with
      | .error e => .error e
      | .ok (a, rest) => match Json.skipSpace rest with
        | ']' :: rest => .ok (a, rest)
        | _ => .error .malformed
    | _ => .error .malformed
  match outcome with
  | .error e => .error e
  | .ok (a, rest) => if (Json.skipSpace rest).isEmpty then .ok a else .error .malformed

end PoolExit.TextMember
