import PoolExit.Command.Form
import PoolExit.Settings.Basic

/-!
# Commands and their arguments

There are four commands.  `run` and `plan` take the options of an exit, which come before the
settings; `fees` takes a fee to start from; `init` takes a directory and whether a file there may be
replaced.  The file of the settings is named before the command.
-/

namespace PoolExit

namespace Command

/-- Options of an exit that come before the settings. -/
structure ExitArguments where
  feeLevelBase : Option UInt64 := none
  computeUnitCeiling : Option UInt32 := none
  venues : List Venue := []
  slippageBps : Option UInt16 := none
  dryRun : Bool := false
deriving DecidableEq, Repr

/-- Where the template of the settings is put. -/
structure InitArguments where
  directory : Option String := none
  force : Bool := false
deriving DecidableEq, Repr

end Command

/-- What the program is asked to do. -/
inductive Command where
  | run (arguments : Command.ExitArguments)
  | plan (arguments : Command.ExitArguments)
  | fees (base : Option UInt64)
  | init (arguments : Command.InitArguments)
deriving DecidableEq, Repr

namespace Command

/-! ## Values -/

/-- Sets something that must not have been set before. -/
def once {α σ : Type} (option : String) (old : Option α) (read : String → Except UsageFault α)
    (set : α → σ) : String → Except UsageFault σ := fun word =>
  if old.isSome then .error (.repeated option)
  else match read word with
    | .error fault => .error fault
    | .ok value => .ok (set value)

/-- Reads a 64-bit number. -/
def readUInt64 (option word : String) : Except UsageFault UInt64 :=
  match Text.readUInt64 word with
  | .ok n => .ok n
  | .error _ => .error (.badValue option word)

/-- Reads a number of at most `bound`, which may be zero with a minus sign. -/
def readSmall (bound : Nat) (option word : String) : Except UsageFault Nat :=
  let digits := match word.toList with
    | '-' :: digit :: rest => if (digit :: rest).all (· = '0') then ['0'] else word.toList
    | cs => cs
  match Text.readUnsigned 10 bound digits with
  | .ok n => .ok n
  | .error _ => .error (.badValue option word)

/-- Reads a 32-bit number. -/
def readUInt32 (option word : String) : Except UsageFault UInt32 :=
  (readSmall Text.maxUInt32 option word).map UInt32.ofNat

/-- Reads a 16-bit number. -/
def readUInt16 (option word : String) : Except UsageFault UInt16 :=
  (readSmall Text.maxUInt16 option word).map UInt16.ofNat

/-- Reads a path, which must not be empty. -/
def readPath (option word : String) : Except UsageFault String :=
  if word.isEmpty then .error (.missingValue option) else .ok word

/-- Reads venues with commas between them. -/
def readVenues (option word : String) : Except UsageFault (List Venue) :=
  (word.splitOn ",").mapM fun name =>
    match Venue.read? name with
    | some v => .ok v
    | none => .error (.badValue option (Venue.unknownMessage name))

/-! ## Forms -/

/-- The option that asks for help on a topic. -/
def helpOption {σ : Type} (topic : Option String) : OptionForm σ :=
  ⟨"help", some 'h', .stop (.help topic)⟩

/-- A word that fits nowhere. -/
def strayWord : Bool → String → UsageFault := fun _ word => .unknownArgument word

/-- The form of a command that makes an exit. -/
def exitForm (topic : String) : Form ExitArguments where
  options :=
    [⟨"fee-level-base", none, .value fun word a =>
        once "--fee-level-base" a.feeLevelBase (readUInt64 "--fee-level-base")
          (fun n => { a with feeLevelBase := some n }) word⟩,
      ⟨"compute-unit-ceiling", none, .value fun word a =>
        once "--compute-unit-ceiling" a.computeUnitCeiling (readUInt32 "--compute-unit-ceiling")
          (fun n => { a with computeUnitCeiling := some n }) word⟩,
      ⟨"protocols", none, .value fun word a =>
        match readVenues "--protocols" word with
        | .error fault => .error fault
        | .ok venues => .ok { a with venues := a.venues ++ venues }⟩,
      ⟨"slippage-bps", none, .value fun word a =>
        once "--slippage-bps" a.slippageBps (readUInt16 "--slippage-bps")
          (fun n => { a with slippageBps := some n }) word⟩,
      ⟨"dry-run", none, .flag fun a =>
        if a.dryRun then .error (.repeated "--dry-run") else .ok { a with dryRun := true }⟩,
      helpOption (some topic)]
  place := none
  stray := strayWord

/-- The form of the command `fees`. -/
def feesForm : Form (Option UInt64) where
  options := [helpOption (some "fees")]
  place := some ("[BASE]", fun word base => once "[BASE]" base (readUInt64 "[BASE]") some word)
  stray := strayWord

/-- The form of the command `init`. -/
def initForm : Form InitArguments where
  options :=
    [⟨"output", none, .value fun word a =>
        once "--output" a.directory (readPath "--output")
          (fun path => { a with directory := some path }) word⟩,
      ⟨"force", none, .flag fun a =>
        if a.force then .error (.repeated "--force") else .ok { a with force := true }⟩,
      helpOption (some "init")]
  place := none
  stray := strayWord

/-- The names of the commands. -/
def names : List String := ["run", "plan", "fees", "init"]

/-- The name under which help is asked for like a command. -/
def helpName : String := "help"

/-- Reads the words behind the name of a command; there is none of another name. -/
def read? (name : String) (words : List String) : Option (Except UsageFault Command) :=
  match name with
  | "run" => some (((exitForm "run").read words {}).map .run)
  | "plan" => some (((exitForm "plan").read words {}).map .plan)
  | "fees" => some ((feesForm.read words none).map .fees)
  | "init" => some ((initForm.read words {}).map .init)
  | _ => none

/-- The form of what stands before the command: the path of the settings. -/
def frontForm : Form (Option String) where
  options :=
    [⟨"config", some 'c', .value fun word path =>
        once "--config" path (readPath "--config") some word⟩,
      helpOption none,
      ⟨"version", some 'V', .stop .version⟩]
  place := none
  stray := fun plain word =>
    if plain && (helpName :: names).contains word then .unknownArgument word
    else .unknownCommand word

/-- The help that is asked for by the words behind `help`. -/
def helpOn : List String → UsageFault
  | [] => .help none
  | [word] => if names.contains word then .help (some word)
    else if word = helpName then .help none else .unknownCommand word
  | word :: next :: _ =>
    if (helpName :: names).contains word then .unknownCommand next else .unknownCommand word

/-- What the program is called with. -/
structure Invocation where
  /-- The path of the settings. -/
  config : Option String
  command : Command
deriving DecidableEq, Repr

/-- Reads words on, until a command is named. -/
def Invocation.readFrom (r : Reading (Option String)) :
    List String → Except UsageFault Invocation
  | [] => match r.settle with
    | .error fault => .error fault
    | .ok r => .error (if r.taken.isSome then .missingCommand else .nothing)
  | word :: rest =>
    if !r.plain && !r.awaits && word = helpName then .error (helpOn rest)
    else match if r.plain || r.awaits then none else read? word rest with
      | some (.error fault) => .error fault
      | some (.ok command) => match r.settle with
        | .error fault => .error fault
        | .ok r => .ok ⟨r.taken, command⟩
      | none => match frontForm.readWord word r with
        | .error fault => .error fault
        | .ok r => readFrom r rest

/-- Reads all words. -/
def Invocation.read (words : List String) : Except UsageFault Invocation :=
  Invocation.readFrom { taken := none } words

end Command

/-- The options of a run: what is asked for comes before the settings, and a dry run is made where
either wants one. -/
def Settings.optionsFor (s : Settings) (a : Command.ExitArguments) : Options :=
  let o := s.options (if a.venues.isEmpty then s.enabledVenues else a.venues)
  { o with
    feeLevelBase := a.feeLevelBase.getD o.feeLevelBase
    computeUnitCeiling := a.computeUnitCeiling.getD o.computeUnitCeiling
    slippageBps := a.slippageBps.getD o.slippageBps
    dryRun := o.dryRun || a.dryRun }

end PoolExit
