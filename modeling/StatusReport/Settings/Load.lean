import StatusReport.Settings.Codec
import StatusReport.Toml.Reader

/-! # Settings files

Settings are kept as TOML. A file that a request names has to hold settings. Without one the places
where settings are looked for are tried in order, and what is missing or holds none is passed over.

* `Settings.ofText`: the settings that a text spells.
* `Settings.load`: the settings of a request.
-/

namespace StatusReport

def settingsFileName : String := ".kreport.toml"

namespace Settings

def ofText (content : String) : Except SettingsError Settings :=
  match (Toml.read? content).bind (ofData? .ignored) with
  | some s => .ok s
  | none => .error .malformed

def ofFile (env : Environment) (path : String) : Except SettingsError Settings :=
  match env.readText path with
  | .error e => .error (.unreadable path e)
  | .ok content => ofText content

def findFirst (env : Environment) : List String → Settings
  | [] => {}
  | path :: rest =>
    match ofFile env path with
    | .ok s => s
    | .error _ => findFirst env rest

/-- The settings of a request, which may name a file. -/
def load (env : Environment) : Option String → Except SettingsError Settings
  | some path => ofFile env path
  | none => .ok (findFirst env env.settingsPaths)

end Settings

end StatusReport
