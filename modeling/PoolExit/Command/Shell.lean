import PoolExit.Command.LogFilter
import PoolExit.Command.Notice
import PoolExit.Endpoint.Exchange
import PoolExit.Ledger.Node
import PoolExit.Wallet.Secret

/-!
# What the program asks of the machine

The program is a flow of these steps, so it can be carried out on a real machine as well as on one
that exists only on paper.
-/

namespace PoolExit

/-- A step of the program. -/
inductive ShellStep where
  /-- What stands at a path. -/
  | contents (path : String)
  | environment (name : String)
  | currentDirectory
  /-- Makes a directory, with those above it. -/
  | makeDirectory (path : String)
  | write (path text : String)
  | print (line : String)
  /-- Says which lines of the log are shown from now on, and whether as JSON. -/
  | showLog (filter : Command.LogFilter) (json : Bool)
  | log (line : LogLine)
  | http (step : HttpStep)
  /-- A request to the node at an address. -/
  | node (url : String) (request : NodeRequest)
  /-- The milliseconds that have gone by since some moment. -/
  | clock
  | pause (milliseconds : Nat)
  /-- Whether the user has asked the program to stop. -/
  | interrupted

/-- What a step is answered with. -/
abbrev ShellStep.Answer : ShellStep → Type
  | .contents _ => FileContents
  | .environment _ => Option String
  | .currentDirectory => String
  | .makeDirectory _ => Except String Unit
  | .write .. => Except String Unit
  | .print _ => Unit
  | .showLog .. => Unit
  | .log _ => Unit
  | .http step => step.Answer
  | .node .. => NodeReply
  | .clock => Nat
  | .pause _ => Unit
  | .interrupted => Bool

/-- A flow of steps of the program. -/
abbrev Shell (α : Type) := Flow ShellStep ShellStep.Answer α

namespace Shell

/-- Makes a step. -/
def step (s : ShellStep) : Shell s.Answer := Flow.question s

/-- Prints lines in order. -/
def printAll : List String → Shell Unit
  | [] => .done ()
  | line :: rest => do
    step (.print line)
    printAll rest

/-- Shows an event of the program. -/
def note (n : Command.ProgramNotice) : Shell Unit := step (.log n.line)

/-- Has an exchange with an endpoint. -/
def http {α : Type} (talk : HttpTalk α) : Shell α := talk.perform fun s => step (.http s)

end Shell

end PoolExit
