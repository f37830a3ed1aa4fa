import StatusReport.Settings.Basic

/-! # Commands

A request is a command with what is common to all commands. Two commands make a report from
records, and one checks a layout.

* `Request.paths`, `Request.readsInput`: what a request may read.
-/

namespace StatusReport

/-- Where a report comes from. Without an input file the standard input is read. -/
structure Source where
  layout : String
  input : Option String := none
deriving DecidableEq, Repr

inductive Command where
  | table (source : Source) (visibility : VisibilityRequest)
  | detail (source : Source) (visibility : VisibilityRequest) (index : Nat)
  | check (layout : String) (visibility : VisibilityRequest)
deriving DecidableEq, Repr

/-- A command, and the settings file that is named for it. -/
structure Request where
  settings : Option String := none
  command : Command
deriving DecidableEq, Repr

namespace Source

def paths (s : Source) : List String :=
  s.layout :: (s.input.filter fun path => !Path.isStandardInput path).toList

def readsInput (s : Source) : Bool := s.input.all Path.isStandardInput

end Source

namespace Command

def source? : Command → Option Source
  | .table source _ => some source
  | .detail source _ _ => some source
  | .check _ _ => none

def paths : Command → List String
  | .table source _ => source.paths
  | .detail source _ _ => source.paths
  | .check layout _ => [layout]

end Command

namespace Request

/-- The files that may be read, given where settings are looked for. -/
def paths (r : Request) (settingsPaths : List String) : List String :=
  r.settings.elim settingsPaths (fun path => [path]) ++ r.command.paths

def readsInput (r : Request) : Bool := r.command.source?.any Source.readsInput

end Request

end StatusReport
