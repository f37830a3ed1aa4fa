import StatusReport.Data.Structure
import StatusReport.Settings.Basic

/-! # Settings as plain data

Every part of settings may be missing and then has its default.

* `Settings.ofData?`: reads settings.
* `Settings.toData`: writes them, all parts.
-/

namespace StatusReport

namespace VisibilitySettings

def fieldNames : List String := ["show", "hide", "hide_all_by_default"]

def ofData? (surplus : Surplus) (d : Data) : Option VisibilitySettings := do
  match ← d.fields? surplus fieldNames with
  | [shown, hidden, all] =>
    return {
      shown := ← Data.orElse [] (Data.listOf Data.text?) shown
      hidden := ← Data.orElse [] (Data.listOf Data.text?) hidden
      hideAllByDefault := ← Data.orElse false Data.bool? all }
  | _ => none

def toData (v : VisibilitySettings) : Data :=
  .ofEntries [("show", .list (v.shown.map .text)), ("hide", .list (v.hidden.map .text)),
    ("hide_all_by_default", .bool v.hideAllByDefault)]

end VisibilitySettings

namespace OutputSettings

def fieldNames : List String := ["padding", "color"]

def ofData? (surplus : Surplus) (d : Data) : Option OutputSettings := do
  let default : OutputSettings := {}
  match ← d.fields? surplus fieldNames with
  | [padding, color] =>
    return ⟨← Data.orElse default.padding Data.count? padding,
      ← Data.orElse default.color Data.bool? color⟩
  | _ => none

def toData (o : OutputSettings) : Data :=
  .ofEntries [("padding", .integer o.padding), ("color", .bool o.color)]

end OutputSettings

namespace Settings

def fieldNames : List String := ["view", "output", "formatters"]

def aliasTable? (d : Data) : Option AliasTable := (Data.tableOf Data.text? d).map AliasTable.ofList

def ofData? (surplus : Surplus) (d : Data) : Option Settings := do
  match ← d.fields? surplus fieldNames with
  | [view, output, formatters] =>
    return {
      visibility := ← Data.orElse {} (VisibilitySettings.ofData? surplus) view
      output := ← Data.orElse {} (OutputSettings.ofData? surplus) output
      aliases := ← Data.orElse ∅ aliasTable? formatters }
  | _ => none

def toData (s : Settings) : Data :=
  .ofEntries [("view", s.visibility.toData), ("output", s.output.toData),
    ("formatters", .ofEntries (s.aliases.entries.map fun (name, target) => (name, .text target)))]

end Settings

end StatusReport
