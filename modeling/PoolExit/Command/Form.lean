/-!
# Forms of arguments

A form says which options a command takes, and whether it takes one argument in a place of its own.
Reading goes through the words from left to right.  A word after an option, and the word in the place,
is only noted at first; it is taken in when the next option or place begins, or at the end.  So of two
faults it may be the one further right that is reported: a word that fits nowhere is refused at once.
-/

namespace PoolExit.Command

/-- Why arguments are refused, or what they ask for in place of a command. -/
inductive UsageFault where
  /-- There are no arguments at all. -/
  | nothing
  | missingCommand
  | unknownCommand (word : String)
  | unknownArgument (word : String)
  /-- An option lacks its value. -/
  | missingValue (option : String)
  /-- A value is given to an option that takes none. -/
  | unwantedValue (option : String)
  | badValue (option word : String)
  | repeated (option : String)
  /-- The help on a command, or on all of them. -/
  | help (topic : Option String)
  | version
deriving DecidableEq, Repr

/-- Takes a value into what has been read. -/
abbrev Taker (σ : Type) := String → σ → Except UsageFault σ

/-- What an option does. -/
inductive OptionAction (σ : Type) where
  | flag (set : σ → Except UsageFault σ)
  | value (take : Taker σ)
  | stop (fault : UsageFault)

/-- An option of a form. -/
structure OptionForm (σ : Type) where
  long : String
  short : Option Char
  action : OptionAction σ

/-- A form. -/
structure Form (σ : Type) where
  options : List (OptionForm σ)
  /-- The argument that stands in a place of its own. -/
  place : Option (String × Taker σ)
  /-- The fault of a word that fits nowhere; the truth value says whether it stands behind `--`. -/
  stray : Bool → String → UsageFault

/-- An option or a place, and the word noted for it; an option may still wait for its word. -/
structure Pending (σ : Type) where
  name : String
  word : Option String
  take : Taker σ

/-- How far the words have been read. -/
structure Reading (σ : Type) where
  taken : σ
  pending : Option (Pending σ) := none
  /-- Whether the place has got its word. -/
  placed : Bool := false
  /-- Whether `--` has been read, behind which there are no options. -/
  plain : Bool := false

namespace Reading

variable {σ : Type}

/-- Whether an option waits for its word. -/
def awaits (r : Reading σ) : Bool :=
  match r.pending with
  | some p => p.word.isNone
  | none => false

/-- Takes in the word that has been noted. -/
def settle (r : Reading σ) : Except UsageFault (Reading σ) :=
  match r.pending with
  | none => .ok r
  | some p => match p.word with
    | none => .error (.missingValue p.name)
    | some word => match p.take word r.taken with
      | .error fault => .error fault
      | .ok taken => .ok { r with taken, pending := none }

/-- Changes what has been taken in. -/
def change (r : Reading σ) (f : σ → Except UsageFault σ) : Except UsageFault (Reading σ) :=
  match f r.taken with
  | .error fault => .error fault
  | .ok taken => .ok { r with taken }

end Reading

namespace Form

variable {σ : Type}

/-- Reads an option with the value that is attached to it, if any. -/
def readOption (o : OptionForm σ) (attached : Option String) (r : Reading σ) :
    Except UsageFault (Reading σ) := do
  let r ← r.settle
  match o.action, attached with
  | .flag set, _ => r.change set
  | .stop fault, _ => throw fault
  | .value take, some word => r.change (take word)
  | .value take, none => return { r with pending := some ⟨"--" ++ o.long, none, take⟩ }

/-- Whether an option takes a value. -/
def takesValue (o : OptionForm σ) : Bool :=
  match o.action with
  | .value _ => true
  | _ => false

/-- Reads an option by its long name, behind which a value may be attached with `=`. -/
def readLong (f : Form σ) (body : List Char) (r : Reading σ) : Except UsageFault (Reading σ) :=
  let name := String.ofList (body.takeWhile (· ≠ '='))
  let attached := match body.dropWhile (· ≠ '=') with
    | [] => none
    | _ :: value => some (String.ofList value)
  match f.options.find? fun o => o.long = name with
  | none => .error (.unknownArgument ("--" ++ name))
  | some o =>
    if attached.isSome && !takesValue o then .error (.unwantedValue ("--" ++ name))
    else readOption o attached r

/-- Reads options by their short names.  The characters behind an option that takes a value are its
value, without an `=` in front. -/
def readShort (f : Form σ) : List Char → Reading σ → Except UsageFault (Reading σ)
  | [], r => .ok r
  | c :: rest, r =>
    match f.options.find? fun o => o.short = some c with
    | none => .error (.unknownArgument ("-" ++ String.singleton c))
    | some o =>
      if takesValue o then
        match rest with
        | [] => readOption o none r
        | '=' :: value => readOption o (some (String.ofList value)) r
        | value => readOption o (some (String.ofList value)) r
      else match readOption o none r with
        | .error fault => .error fault
        | .ok r => readShort f rest r

/-- Reads a word that is no option. -/
def readPlain (f : Form σ) (word : String) (r : Reading σ) : Except UsageFault (Reading σ) :=
  match f.place with
  | some (name, take) =>
    if r.placed then .error (f.stray r.plain word)
    else match r.settle with
      | .error fault => .error fault
      | .ok r => .ok { r with pending := some ⟨name, some word, take⟩, placed := true }
  | none => .error (f.stray r.plain word)

/-- Reads a word that is no option, as the value of an option that waits for one, or else in its
place. -/
def readValue (f : Form σ) (word : String) (r : Reading σ) : Except UsageFault (Reading σ) :=
  match r.pending with
  | some p =>
    if p.word.isNone then .ok { r with pending := some { p with word := some word } }
    else f.readPlain word r
  | none => f.readPlain word r

/-- Reads one word. -/
def readWord (f : Form σ) (word : String) (r : Reading σ) : Except UsageFault (Reading σ) :=
  if r.plain then f.readPlain word r
  else match word.toList with
    | ['-', '-'] => .ok { r with plain := true }
    | '-' :: '-' :: body => f.readLong body r
    | ['-'] => f.readValue word r
    | '-' :: body => f.readShort body r
    | _ => f.readValue word r

/-- Reads words on. -/
def readFrom (f : Form σ) : List String → Reading σ → Except UsageFault σ
  | [], r => match r.settle with
    | .error fault => .error fault
    | .ok r => .ok r.taken
  | word :: rest, r => match f.readWord word r with
    | .error fault => .error fault
    | .ok r => f.readFrom rest r

/-- Reads all words of a command. -/
def read (f : Form σ) (words : List String) (blank : σ) : Except UsageFault σ :=
  f.readFrom words { taken := blank }

end Form

end PoolExit.Command
