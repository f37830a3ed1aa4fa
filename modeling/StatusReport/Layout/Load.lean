import StatusReport.Files
import StatusReport.Layout.Codec
import StatusReport.Toml.Reader

/-! # Layout files

Layouts are kept as TOML.

* `Layout.ofText?`: the layout that a text spells.
* `Layout.load`: the layout in a file.
-/

namespace StatusReport

inductive LayoutError where
  | unreadable (path : String) (e : ReadError)
  | malformed (path : String)
deriving DecidableEq, Repr

def LayoutError.message : LayoutError → String
  | .unreadable path e => "Failed to read layout " ++ path ++ ": " ++ e.message
  | .malformed path => "Failed to parse layout " ++ path

namespace Layout

def ofText? (content : String) : Option Layout := (Toml.read? content).bind (ofData? .ignored)

def load (env : Environment) (path : String) : Except LayoutError Layout :=
  match env.readText path with
  | .error e => .error (.unreadable path e)
  | .ok content =>
    match ofText? content with
    | some layout => .ok layout
    | none => .error (.malformed path)

end Layout

end StatusReport
