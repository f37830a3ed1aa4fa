import StatusReport.Value.Basic

/-! # Formatters

A formatter turns a value into the text of its cell. It also sees the record that the value comes
from, and it may refuse.
-/

namespace StatusReport

open Number (Binary64)

inductive FormatError where
  | notANumber (formatter : String) (found : Value.Kind)
  | negativeDuration (formatter : String) (seconds : Binary64)
  /-- The words of a formatter that a caller supplied. -/
  | custom (message : String)
deriving DecidableEq

namespace FormatError

def message : FormatError → String
  | .notANumber formatter found => formatter ++ " expects a number, got " ++ found.name
  | .negativeDuration formatter seconds =>
    formatter ++ " expects a non-negative number of seconds, got " ++ seconds.plain
  | .custom message => message

end FormatError

/-- What makes the text of a cell. -/
structure Formatter where
  apply : Value → Record → Except FormatError String

namespace Formatter

def ofValue (f : Value → Except FormatError String) : Formatter := ⟨fun v _ => f v⟩

/-- The number behind a value, for the named formatter. -/
def numberFor (formatter : String) (v : Value) : Except FormatError Binary64 :=
  match v.number? with
  | some x => .ok x
  | none => .error (.notANumber formatter v.deref.kind)

end Formatter

end StatusReport
