import PoolExit.Json.Reader

/-!
# Passing over JSON values

A value that nobody wants is only passed over.  It has to be written as JSON, but it need not have a
value that could be read: arrays and objects may be nested to any depth, numbers may be of any size,
and escapes may stand for halves of surrogate pairs.
-/

namespace PoolExit.Json

/-- Goes past a string behind its opening quote. -/
def skipString : (fuel : Nat) → List Char → Except Fault (List Char)
  | _, [] => .error .unexpectedEnd
  | 0, _ => .error .unexpectedEnd
  | fuel + 1, c :: rest =>
    if c = '"' then .ok rest
    else if c = '\\' then
      match rest with
      | 'u' :: r =>
        match readHex4 r with
        | .error e => .error e
        | .ok (_, r) => skipString fuel r
      | e :: r => if (simpleEscape? e).isSome then skipString fuel r else .error .invalidEscape
      | [] => .error .unexpectedEnd
    else if c.toNat < 0x20 then .error (.unexpectedCharacter c)
    else skipString fuel rest

/-- Goes past a number behind its minus sign. -/
def skipNumber (cs : List Char) : Except Fault (List Char) := do
  let (_, rest) ← readWhole cs
  let (_, rest) ← readFraction rest
  let (_, rest) ← readExponent rest
  return rest

/-- Goes past a value that is neither an array nor an object. -/
def skipScalar : List Char → Except Fault (List Char)
  | [] => .error .unexpectedEnd
  | '"' :: rest => skipString rest.length rest
  | '-' :: rest => skipNumber rest
  | 't' :: rest => (readWord ['r', 'u', 'e'] .null rest).map Prod.snd
  | 'f' :: rest => (readWord ['a', 'l', 's', 'e'] .null rest).map Prod.snd
  | 'n' :: rest => (readWord ['u', 'l', 'l'] .null rest).map Prod.snd
  | c :: rest => if c.isDigit then skipNumber (c :: rest) else .error (.unexpectedCharacter c)

/-- Goes past the name of a member and its colon. -/
def skipName (cs : List Char) : Except Fault (List Char) :=
  match skipSpace cs with
  | '"' :: rest =>
    match skipString rest.length rest with
    | .error e => .error e
    | .ok rest => match skipSpace rest with
      | ':' :: rest => .ok rest
      | rest => .error (unexpected rest)
  | rest => .error (unexpected rest)

/-- An array or an object that has been opened and not been closed. -/
inductive Enclosure where
  | array
  | object
deriving DecidableEq, Repr

/-- Goes on until everything that is open has been closed, the innermost first.  Either a value comes
next, or one has just ended. -/
def skipOpen : (fuel : Nat) → (ended : Bool) → List Enclosure → List Char → Except Fault (List Char)
  | 0, _, _, _ => .error .unexpectedEnd
  | _ + 1, true, [], cs => .ok cs
  | fuel + 1, true, .array :: outer, cs =>
    match skipSpace cs with
    | ',' :: rest => skipOpen fuel false (.array :: outer) rest
    | ']' :: rest => skipOpen fuel true outer rest
    | rest => .error (unexpected rest)
  | fuel + 1, true, .object :: outer, cs =>
    match skipSpace cs with
    | ',' :: rest =>
      match skipName rest with
      | .error e => .error e
      | .ok rest => skipOpen fuel false (.object :: outer) rest
    | '\x7d' :: rest => skipOpen fuel true outer rest
    | rest => .error (unexpected rest)
  | fuel + 1, false, outer, cs =>
    match skipSpace cs with
    | '[' :: rest =>
      match skipSpace rest with
      | ']' :: rest => skipOpen fuel true outer rest
      | rest => skipOpen fuel false (.array :: outer) rest
    | '\x7b' :: rest =>
      match skipSpace rest with
      | '\x7d' :: rest => skipOpen fuel true outer rest
      | rest =>
        match skipName rest with
        | .error e => .error e
        | .ok rest => skipOpen fuel false (.object :: outer) rest
    | cs =>
      match skipScalar cs with
      | .error e => .error e
      | .ok rest => skipOpen fuel true outer rest

/-- Goes past a value.  Each step takes a character, apart from the last one. -/
def skipValue (cs : List Char) : Except Fault (List Char) :=
  skipOpen (cs.length + 1) false [] cs

end PoolExit.Json
