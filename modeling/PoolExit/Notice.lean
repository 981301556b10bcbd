/-!
# Log lines

A log line has a level, a target, a message and named values.  Events of the library are inductive
types of their own, and each says which line it writes.
-/

namespace PoolExit

/-- How urgent a log line is. -/
inductive LogLevel where
  | info
  | warn
deriving DecidableEq, Repr

/-- The name of a level. -/
def LogLevel.name : LogLevel → String
  | .info => "INFO"
  | .warn => "WARN"

/-- One line of the log. -/
structure LogLine where
  level : LogLevel
  target : String
  message : String
  fields : List (String × String)
deriving DecidableEq, Repr


end PoolExit
