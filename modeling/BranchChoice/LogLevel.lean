import BranchChoice.Text.Case
import BranchChoice.Text.Quoted

/-!
# Log levels

The names of the levels that a log can be set to.
-/

namespace BranchChoice

/-- The levels of a log. -/
inductive LogLevel where
  | critical
  | error
  | warning
  | info
  | debug
  | all
  deriving DecidableEq

/-- A name of a level that is none. -/
structure UnknownLevel where
  name : String
  deriving DecidableEq

/-- The wording for an unknown level. -/
def UnknownLevel.message (e : UnknownLevel) : String :=
  "Unknown level: " ++ Text.quoted e.name

namespace LogLevel

/-- The names of the levels. -/
def names : List (String × LogLevel) :=
  [("CRITICAL", critical), ("FATAL", critical), ("ERROR", error), ("WARN", warning),
    ("WARNING", warning), ("INFO", info), ("DEBUG", debug), ("NOTSET", all)]

/-- The level of a name in either case. -/
def ofName (name : String) : Except UnknownLevel LogLevel :=
  match names.lookup (Text.upper name) with
  | some level => .ok level
  | none => .error ⟨Text.upper name⟩

end LogLevel

end BranchChoice
