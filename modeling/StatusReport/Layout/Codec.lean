import StatusReport.Data.Structure
import StatusReport.Layout.Basic

/-! # Layouts as plain data

Only the key of a field has to be there. Writing leaves out what is not declared and empty lists of
inner fields, and reading takes what is missing for just that.

* `Layout.ofData?`: reads a layout.
* `Layout.toData`: writes one.
-/

namespace StatusReport

/-! ## Reading -/

namespace LayoutGroup

def fieldNames : List String := ["name", "flatten"]

def ofData? (surplus : Surplus) (d : Data) : Option LayoutGroup := do
  match ← d.fields? surplus fieldNames with
  | [name, flatten] =>
    return ⟨← Data.orElse "" Data.text? name, ← Data.orElse false Data.bool? flatten⟩
  | _ => none

def toData (g : LayoutGroup) : Data :=
  .ofEntries [("name", .text g.name), ("flatten", .bool g.flatten)]

end LayoutGroup

namespace LayoutField

def innerName : String := "fields"

def fieldNames : List String := ["key", "title", "default", "format", "group"]

/-- Reads a layout field from its parts up to the group. The caller reads the inner fields. -/
def ownParts? (surplus : Surplus) (parts : List (Option Data)) : Option LayoutField :=
  let text := Data.orElse none (Data.optional Data.text?)
  match parts with
  | [key, title, defaultText, format, group] => do
    return {
      key := ← Data.required Data.text? key
      title := ← text title
      defaultText := ← text defaultText
      format := ← text format
      group := ← Data.orElse none (Data.optional (LayoutGroup.ofData? surplus)) group }
  | _ => none

mutual

def ofData? (surplus : Surplus) : Data → Option LayoutField
  | .table entries => do
    let field ← ownParts? surplus (fieldNames.map fun name => Entries.get? name entries)
    return { field with fields := ← innerOfEntries surplus entries }
  | .list items =>
    if surplus = .refused ∧ fieldNames.length + 1 < items.length then none
    else do
      let field ← ownParts? surplus (Data.inOrder fieldNames items)
      return { field with fields := ← innerOfItems surplus fieldNames.length items }
  | _ => none

def listOfData? (surplus : Surplus) : Data → Option (List LayoutField)
  | .list items => itemsOfData? surplus items
  | _ => none

def itemsOfData? (surplus : Surplus) : List Data → Option (List LayoutField)
  | [] => some []
  | d :: rest => do
    let field ← ofData? surplus d
    let fields ← itemsOfData? surplus rest
    return field :: fields

def innerOfEntries (surplus : Surplus) : List (String × Data) → Option (List LayoutField)
  | [] => some []
  | (name, d) :: rest =>
    if name = innerName then listOfData? surplus d else innerOfEntries surplus rest

def innerOfItems (surplus : Surplus) (place : Nat) : List Data → Option (List LayoutField)
  | [] => some []
  | d :: rest =>
    match place with
    | 0 => listOfData? surplus d
    | place + 1 => innerOfItems surplus place rest

end

/-! ## Writing -/

def declared (name : String) (d : Option Data) : List (String × Data) :=
  match d with
  | none => []
  | some d => [(name, d)]

mutual

def toData : LayoutField → Data
  | ⟨key, title, defaultText, format, group, fields⟩ =>
    .ofEntries ([("key", .text key)] ++ declared "title" (title.map .text) ++
      declared "default" (defaultText.map .text) ++ declared "format" (format.map .text) ++
      declared "group" (group.map LayoutGroup.toData) ++
      match fields with
      | [] => []
      | field :: rest => [(innerName, .list (toData field :: itemsToData rest))])

def itemsToData : List LayoutField → List Data
  | [] => []
  | field :: rest => toData field :: itemsToData rest

end

end LayoutField

namespace Layout

def fieldNames : List String := ["name", "fields"]

def ofData? (surplus : Surplus) (d : Data) : Option Layout := do
  match ← d.fields? surplus fieldNames with
  | [name, fields] =>
    return ⟨← Data.orElse "" Data.text? name,
      ← Data.orElse [] (LayoutField.listOfData? surplus) fields⟩
  | _ => none

def toData (layout : Layout) : Data :=
  .ofEntries [("name", .text layout.name),
    ("fields", .list (LayoutField.itemsToData layout.fields))]

end Layout

end StatusReport
