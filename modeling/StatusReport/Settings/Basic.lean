import StatusReport.Files
import StatusReport.Report.Basic
import StatusReport.Settings.Alias

/-! # Settings

Settings are the defaults of a user: what reports show and hide, how tables are padded, whether
output is coloured, and further names for formatters.

* `Settings.registry`: the formatters under all their names.
* `Settings.options`: the options of a report, from the settings and from what a request adds.
-/

namespace StatusReport

structure VisibilitySettings where
  shown : List String := []
  hidden : List String := []
  hideAllByDefault : Bool := false
deriving DecidableEq, Repr

structure OutputSettings where
  padding : Nat := 2
  color : Bool := true
deriving DecidableEq, Repr

structure Settings where
  visibility : VisibilitySettings := {}
  output : OutputSettings := {}
  aliases : AliasTable := ∅
deriving DecidableEq

inductive SettingsError where
  | unreadable (path : String) (e : ReadError)
  | malformed
  /-- A further name stands for what is no formatter. -/
  | badAlias (e : SchemaError)
deriving DecidableEq, Repr

def SettingsError.message : SettingsError → String
  | .unreadable path e => "Failed to read " ++ path ++ ": " ++ e.message
  | .malformed => "Failed to parse configuration"
  | .badAlias e => "Invalid formatter alias: " ++ e.message

/-- What one request adds to the settings. -/
structure VisibilityRequest where
  shown : List String := []
  hidden : List String := []
  hideAll : Bool := false
deriving DecidableEq, Repr

namespace VisibilitySettings

def directive (v : VisibilitySettings) : Directive :=
  ⟨.ofList v.shown, .ofList v.hidden, v.hideAllByDefault⟩

end VisibilitySettings

namespace VisibilityRequest

def apply (request : VisibilityRequest) (options : ViewOptions) : ViewOptions :=
  let options := request.shown.foldl ViewOptions.addShown options
  let options := request.hidden.foldl ViewOptions.addHidden options
  if request.hideAll then options.hideAll else options

end VisibilityRequest

namespace Settings

def directive (s : Settings) : Directive := s.visibility.directive

def registry (s : Settings) : Except SettingsError Registry :=
  match s.aliases.resolve .empty with
  | .error e => .error (.badAlias e)
  | .ok r => .ok r

/-- The options of a report: the defaults first, then what a request adds. -/
def options (s : Settings) (request : VisibilityRequest) : Except SettingsError ViewOptions :=
  match s.registry with
  | .error e => .error e
  | .ok r => .ok (request.apply ⟨s.directive, r⟩)

end Settings

end StatusReport
