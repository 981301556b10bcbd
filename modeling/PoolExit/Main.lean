import PoolExit.Command.Program

/-!
# The program on a real machine

Files, the environment, the clock and the standard streams are the machine's own.  This build has no
network: each request fails as one whose server cannot be connected to.
-/

namespace PoolExit.Main

/-- What of the log is shown, and whether as JSON. -/
structure LogView where
  filter : Command.LogFilter := []
  json : Bool := false

/-- What stands at a path. -/
def contents (path : String) : IO FileContents := do
  try
    return .text (← IO.FS.readFile path)
  catch
    | .noFileOrDirectory .. => return .absent
    | fault => return .unreadable (toString fault)

/-- Shows a line of the log, unless it is hidden. -/
def log (view : IO.Ref LogView) (line : LogLine) : IO Unit := do
  let shown ← view.get
  if shown.filter.shows line then
    IO.println (if shown.json then line.json.compact else line.text)

/-- Makes the steps of the program. -/
def perform (view : IO.Ref LogView) : (s : ShellStep) → IO s.Answer
  | .contents path => contents path
  | .environment name => IO.getEnv name
  | .currentDirectory => return toString (← IO.currentDir)
  | .makeDirectory path => do
    try
      IO.FS.createDirAll path
      return .ok ()
    catch fault => return .error (toString fault)
  | .write path text => do
    try
      IO.FS.writeFile path text
      return .ok ()
    catch fault => return .error (toString fault)
  | .print line => IO.println line
  | .showLog filter json => view.set ⟨filter, json⟩
  | .log line => log view line
  | .http (.note n) => log view n.line
  | .http (.get url _) => return .error (.cannotConnect url)
  | .http (.post url ..) => return .error (.cannotConnect url)
  | .node url _ => return .cannotConnect url
  | .clock => IO.monoMsNow
  | .pause milliseconds => IO.sleep (UInt32.ofNat milliseconds)
  | .interrupted => return false

end PoolExit.Main

/-- Carries the program out and ends with its code. -/
def main (words : List String) : IO UInt32 := do
  let view ← IO.mkRef {}
  let ending ← (PoolExit.Command.program words).perform (PoolExit.Main.perform view)
  ending.complaint.forM fun line => IO.eprintln line
  return ending.code
