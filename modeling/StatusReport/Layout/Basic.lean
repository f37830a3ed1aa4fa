import StatusReport.Descriptor

/-! # Layouts

A layout describes records whose types are not known beforehand. It is what a layout file holds. A
field with a group, or with fields inside it, is a record field; every other one has a single value.

* `Layout.descriptor`: the descriptor that a layout stands for.
-/

namespace StatusReport

/-- The group of a layout field. Without a name it goes by the title or the key of the field. -/
structure LayoutGroup where
  name : String := ""
  flatten : Bool := false
deriving DecidableEq, Repr

structure LayoutField where
  key : String
  title : Option String := none
  defaultText : Option String := none
  format : Option String := none
  group : Option LayoutGroup := none
  fields : List LayoutField := []
deriving Repr

structure Layout where
  name : String := ""
  fields : List LayoutField := []
deriving Repr

namespace LayoutGroup

/-- The group specification of a field with a key and maybe a title. -/
def spec (g : LayoutGroup) (key : String) (title : Option String) : GroupSpec :=
  ⟨if g.name = "" then title.getD key else g.name, g.flatten⟩

end LayoutGroup

namespace LayoutField

def spec (f : LayoutField) : FieldSpec where
  key := f.key
  title := f.title
  defaultText := f.defaultText
  format := f.format
  group := f.group.map (·.spec f.key f.title)

mutual

def toField : LayoutField → Field
  | ⟨key, title, defaultText, format, group, fields⟩ =>
    let spec := LayoutField.spec ⟨key, title, defaultText, format, group, []⟩
    if group.isSome || !fields.isEmpty then .record spec key (toFields fields)
    else .scalar spec

def toFields : List LayoutField → List Field
  | [] => []
  | f :: rest => toField f :: toFields rest

end

theorem toFields_eq_map (fields : List LayoutField) : toFields fields = fields.map toField := by
  induction fields with
  | nil => rfl
  | cons f rest ih => rw [toFields, ih, List.map_cons]

/-- What a field declares does not depend on the fields inside it, or on whether there are any. -/
theorem spec_toField (f : LayoutField) : f.toField.spec = f.spec := by
  obtain ⟨key, title, defaultText, format, group, fields⟩ := f
  rw [toField]
  split <;> rfl

end LayoutField

/-- The descriptor that a layout stands for. -/
def Layout.descriptor (layout : Layout) : Descriptor :=
  ⟨layout.name, LayoutField.toFields layout.fields⟩

end StatusReport
