import PoolExit.Notice
import PoolExit.Text.Blank
import PoolExit.Text.Cut
import PoolExit.Text.Digits

/-!
# Which lines of the log are shown

The setting of the log is a list of rules.  A rule names a level, up to which lines are shown, or the
start of targets, or both with an equals sign between; the start of targets alone shows all of their
lines.  A line is judged by the rule that names the longest start of its target, and by the last such
rule where there are several.
-/

namespace PoolExit.Command

open Text

/-- A rule for the lines whose targets start with a text. -/
structure LogRule where
  target : List Char
  /-- The lines shown: none, those of the most urgent level, and so on. -/
  levels : Nat
deriving DecidableEq, Repr

/-- The number of levels. -/
def allLevels : Nat := 5

/-- The names of levels, with how many levels are shown. -/
def levelNames : List (String × Nat) :=
  [("off", 0), ("error", 1), ("warn", 2), ("info", 3), ("debug", 4), ("trace", 5)]

/-- How many levels a level shows; levels have names and numbers. -/
def levels? (cs : List Char) : Option Nat :=
  match (readUnsigned 10 maxUInt64 cs).toOption.filter (· ≤ allLevels) with
  | some n => some n
  | none => levelNames.lookup (String.ofList (cs.map Char.toLower))

/-- How many levels have to be shown for a line to be among them. -/
def levelsBefore : LogLevel → Nat
  | .warn => 2
  | .info => 3

/-- How many levels a rule shows that names the start of targets, given what follows it. -/
def readLevels : List Char → Option Nat
  | [] | ['='] => some allLevels
  | '=' :: level => levels? level
  | _ => none

/-- Characters that a rule may start with. -/
def startsRule (c : Char) : Bool := c.isAlphanum || c == '-' || c == ':' || c == '_'

/-- Reads a rule.  What stands in brackets confines a rule to the inside of spans, and as no line is
written inside of one, such a rule counts for nothing. -/
def readRule (cs : List Char) : Option (Option LogRule) :=
  let target := cs.takeWhile fun c => c != '=' && c != '['
  if !(cs.head?.any fun c => startsRule c || c == '[') then none
  else match cs.drop target.length with
    | [] => match levels? target with
      | some levels => some (some ⟨[], levels⟩)
      | none => some (some ⟨target, allLevels⟩)
    | '[' :: rest => match rest.dropWhile (· != ']') with
      | ']' :: level => (readLevels level).map fun _ => none
      | _ => none
    | level => (readLevels level).map fun levels => some ⟨target, levels⟩

/-- A log filter: its rules in order. -/
abbrev LogFilter := List LogRule

namespace LogFilter

/-- The filter of a setting of the log.  One that cannot be read stands for three levels, and an empty
one for a single level. -/
def read (setting : String) : LogFilter :=
  let parts := (cutAt ',' setting.toList).filter fun part => !part.isEmpty
  if parts.isEmpty then [⟨[], 1⟩]
  else match parts.mapM fun part => readRule (trim (String.ofList part)).toList with
    | some rules => rules.filterMap id
    | none => [⟨[], 3⟩]

/-- The better one of two rules for a line: the later one, unless it names a shorter start. -/
def better (target : List Char) (best : Option LogRule) (rule : LogRule) : Option LogRule :=
  if rule.target.isPrefixOf target && best.all fun b => b.target.length ≤ rule.target.length then
    some rule
  else best

/-- The rule that a line is judged by. -/
def ruleFor (f : LogFilter) (line : LogLine) : Option LogRule :=
  f.foldl (better line.target.toList) none

/-- Whether a line is shown. -/
def shows (f : LogFilter) (line : LogLine) : Bool :=
  (f.ruleFor line).any fun rule => levelsBefore line.level ≤ rule.levels

end LogFilter

end PoolExit.Command
