import StatusReport.PathSet
import StatusReport.Data.Structure

/-! # Show and hide directives

A directive lists the addresses to show and to hide. Listing an address without a dot among those
to show makes a report selective: what is not listed starts hidden. Hiding everything by default
does the same.

* `Directive.rootDefault`: whether what no list decides is shown.
* `Directive.shows`: whether an address is shown, given its surroundings.
* `Directive.ofData?`, `Directive.toData`: its spelling as plain data.
-/

namespace StatusReport

/-- What a report is told to show and hide. -/
structure Directive where
  showPaths : PathSet := ∅
  hidePaths : PathSet := ∅
  hideAllByDefault : Bool := false
deriving DecidableEq

namespace Directive

instance : Inhabited Directive := ⟨{}⟩

def addShown (d : Directive) (path : String) : Directive :=
  { d with showPaths := d.showPaths.insert path }

def addHidden (d : Directive) (path : String) : Directive :=
  { d with hidePaths := d.hidePaths.insert path }

def hideAll (d : Directive) : Directive := { d with hideAllByDefault := true }

def isUndotted (path : String) : Bool := !path.toList.contains '.'

/-- Whether what no list decides is shown. -/
def rootDefault (d : Directive) : Bool :=
  !d.hideAllByDefault && !d.showPaths.paths.any isUndotted

/-- Whether an address is shown: hiding beats showing, and what is not listed is as its
    surroundings are. -/
def shows (d : Directive) (address : String) (inherited : Bool) : Bool :=
  if address ∈ d.hidePaths then false
  else if address ∈ d.showPaths then true
  else inherited

/-! ## Spelling -/

def fieldNames : List String := ["show_paths", "hide_paths", "hide_all_by_default"]

/-- A set of paths, in any order and repeated or not. -/
def pathSet? (d : Data) : Option PathSet := (Data.listOf Data.text? d).map PathSet.ofList

def ofData? (surplus : Surplus) (d : Data) : Option Directive := do
  match ← d.fields? surplus fieldNames with
  | [shown, hidden, all] =>
    return {
      showPaths := ← Data.orElse ∅ pathSet? shown
      hidePaths := ← Data.orElse ∅ pathSet? hidden
      hideAllByDefault := ← Data.orElse false Data.bool? all }
  | _ => none

def pathData (s : PathSet) : Data := .list (s.paths.map .text)

def toData (d : Directive) : Data :=
  .ofEntries [("show_paths", pathData d.showPaths), ("hide_paths", pathData d.hidePaths),
    ("hide_all_by_default", .bool d.hideAllByDefault)]

end Directive

end StatusReport
