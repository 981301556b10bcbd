import PoolExit.Command.Arguments
import PoolExit.Command.Errand
import PoolExit.Command.Help
import PoolExit.Command.Summary
import PoolExit.Command.Template
import PoolExit.Exit.Report
import PoolExit.Settings.Listen
import PoolExit.Settings.Load

/-!
# The program

The program reads its arguments, then the settings, and then does what it is asked to do.  It ends
with a code: 0 for success, 2 for refused arguments and 1 for any other failure.
-/

namespace PoolExit.Command

/-- Why the program ends without success. -/
inductive ProgramError where
  | settings (error : SettingsError)
  /-- The exporter of measurements cannot listen at the address. -/
  | listen (address : String)
  | exit (error : ExitError)
  /-- A file or a directory could not be written. -/
  | file (reason : String)
  /-- The run or the plan was dropped half-way. -/
  | dropped

/-- The wording of a failure. -/
def ProgramError.message : ProgramError → String
  | .settings e => e.message
  | .listen address => Listen.complaint address
  | .exit e => e.message
  | .file reason => reason
  | .dropped => Desk.droppedReason

/-- How the program ends: the code, and what is shown as a complaint. -/
structure Ending where
  code : UInt32
  complaint : List String
deriving DecidableEq, Repr

/-- The end after a failure or a success. -/
def Ending.of : Except ProgramError Unit → Ending
  | .ok () => ⟨0, []⟩
  | .error e => ⟨1, ["Error: " ++ e.message]⟩

/-- The environment variable that may name the node. -/
def nodeVariable : String := "LP_EXIT_RPC_URL"

/-- The node that is asked where none is named. -/
def standardNode : String := "https://api.mainnet-beta.solana.com"

/-- The node that is asked: the environment comes before the settings. -/
def nodeUrl (environment : Option String) (s : Settings) : String :=
  ((environment.filter fun url => !Text.blank url).or s.primaryRpcUrl).getD standardNode

/-- What stands at a path. -/
def look (path : String) : Shell FileContents := Shell.step (.contents path)

/-- Prepares an exit. -/
def prepare (s : Settings) (o : Options) : Shell (Except ProgramError Errand) := do
  let url := nodeUrl (← Shell.step (.environment nodeVariable)) s
  Shell.note (.nodeReady url)
  let secret ← Shell.step (.environment privateKeyVariable)
  match ← loadKeypair look secret s.global.privateKey with
  | .error e => return .error (.settings e)
  | .ok keypair =>
    if o.venues.isEmpty then Shell.note .noVenue
    return .ok (Errand.ofSettings s o.venues keypair (NodeClient.ofSettings s url))

/-- Makes an exit and shows its table. -/
def runExit (s : Settings) (a : ExitArguments) : Shell (Except ProgramError Unit) := do
  let o := s.optionsFor a
  match ← prepare s o with
  | .error e => return .error e
  | .ok errand =>
    let owner := errand.keypair.pubkey
    match ← errand.node.balance owner with
    | .ok lamports => Shell.note (.balance owner lamports)
    | .error e => Shell.note (.balanceUnknown owner e)
    match ← errand.run o with
    | .refused e | .ended (.error e) => return .error (.exit e)
    | .dropped => return .error .dropped
    | .ended (.ok board) =>
      Shell.printAll board.table
      return .ok ()

/-- Makes a plan and shows it. -/
def showPlan (s : Settings) (a : ExitArguments) : Shell (Except ProgramError Unit) := do
  let o := s.optionsFor a
  match ← prepare s o with
  | .error e => return .error e
  | .ok errand => match ← errand.plan o with
    | none => return .error .dropped
    | some (.error e) => return .error (.exit e)
    | some (.ok made) =>
      Shell.step (.print made.json.pretty)
      return .ok ()

/-- The lines that show a fee ladder. -/
def feeLines (s : Settings) (base : Option UInt64) : List String :=
  (s.ladder.rungs (base.getD s.exit.feeLevelBase)).zipIdx.map fun (level, index) =>
    s!"{index}\t{level}"

/-- A path within a directory. -/
def joined (directory name : String) : String :=
  if directory.endsWith "/" then directory ++ name else directory ++ "/" ++ name

/-- Puts the template into a directory. -/
def putTemplate (a : InitArguments) : Shell (Except ProgramError Unit) := do
  let directory ← match a.directory with
    | some directory => pure directory
    | none => Shell.step .currentDirectory
  if let .error reason := ← Shell.step (.makeDirectory directory) then
    return .error (.file reason)
  let path := joined directory templateName
  let occupied := (← look path) ≠ .absent
  if occupied && !a.force then
    Shell.step (.print s!"跳过 {path}（文件已存在，如需覆盖请加 --force）")
    return .ok ()
  match ← Shell.step (.write path template) with
  | .error reason => return .error (.file reason)
  | .ok () =>
    Shell.step (.print s!"已写入 {path}")
    return .ok ()

/-- Does what the program is asked to do. -/
def perform (s : Settings) : Command → Shell (Except ProgramError Unit)
  | .run a => runExit s a
  | .plan a => showPlan s a
  | .fees base => do
    Shell.printAll (feeLines s base)
    return .ok ()
  | .init a => putTemplate a

/-- Carries an invocation out. -/
def carryOut (i : Invocation) : Shell (Except ProgramError Unit) := do
  match ← Settings.load look i.config with
  | .error e => return .error (.settings e)
  | .ok s =>
    Shell.step (.showLog (.read s.global.logLevel) s.global.logJson)
    if s.prometheusEnable && !Listen.isAddress s.prometheusListen then
      return .error (.listen s.prometheusListen)
    perform s i.command

/-- The whole program. -/
def program (words : List String) : Shell Ending := do
  match Invocation.read words with
  | .error fault =>
    if fault.isWish then
      Shell.printAll fault.lines
      return ⟨0, []⟩
    return ⟨2, fault.lines⟩
  | .ok i => return Ending.of (← carryOut i)

end PoolExit.Command
