/-! # Descriptors of record types

A descriptor declares, in order, the fields of a record type and how each is presented. A field
whose own type is a record carries the fields of that type. It is a *group*, presented through
those fields, if it has a group specification; naming a formatter makes it a single value again.

* `Field.group?`: the specification and the fields of a group.
-/

namespace StatusReport

/-- How the fields of a record inside a record are presented. -/
structure GroupSpec where
  name : String
  /-- A flatten group has no header of its own and is transparent to addresses. -/
  flatten : Bool
deriving DecidableEq, Repr

structure FieldSpec where
  key : String
  title : Option String := none
  defaultText : Option String := none
  format : Option String := none
  group : Option GroupSpec := none
deriving DecidableEq, Repr

namespace FieldSpec

def displayTitle (spec : FieldSpec) : String := spec.title.getD spec.key

/-- The specification of the group that a record field is. A formatter wins over it. -/
def activeGroup? (spec : FieldSpec) : Option GroupSpec :=
  match spec.format with
  | some _ => none
  | none => spec.group

end FieldSpec

inductive Field where
  | scalar (spec : FieldSpec)
  /-- A field whose type is the named record type with these fields. -/
  | record (spec : FieldSpec) (typeName : String) (fields : List Field)
deriving Repr

namespace Field

def spec : Field → FieldSpec
  | .scalar spec => spec
  | .record spec _ _ => spec

def group? : Field → Option (GroupSpec × List Field)
  | .scalar _ => none
  | .record spec _ fields => spec.activeGroup?.map (·, fields)

end Field

structure Descriptor where
  name : String := ""
  fields : List Field := []
deriving Repr

end StatusReport
