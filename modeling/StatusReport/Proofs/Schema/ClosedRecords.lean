import StatusReport.Proofs.Schema.Walk

/-! # Closed records

A record field is closed if it has no group specification, or names a formatter. It is a leaf, and
the walk over a descriptor does not go into it, so the fields inside it are never checked: whether a
schema is built, and which one, does not depend on them, and the formatters that they name may not
be there.

* `Descriptor.everyField`: the fields at any depth.
* `Descriptor.passedOver`: those among them that are inside a closed record.
* `Descriptor.pruned`, `build_pruned`: without them the same is built.
* `resolved_iff_of_build`: the formatters that are there once a schema is built.
-/

namespace StatusReport

namespace Field

mutual

/-- A field and all fields inside it, with the keys of the record fields around each. -/
def everywhere (around : List String) : Field → List Visit
  | .scalar spec => [⟨around, .scalar spec⟩]
  | .record spec typeName fields =>
    ⟨around, .record spec typeName fields⟩ :: everywhereAll (around ++ [spec.key]) fields

def everywhereAll (around : List String) : List Field → List Visit
  | [] => []
  | field :: rest => everywhere around field ++ everywhereAll around rest

end

mutual

/-- The fields inside a field, or inside the fields inside it, that are inside a closed record. -/
def passedOver (around : List String) : Field → List Visit
  | .scalar _ => []
  | .record spec _ fields =>
    if spec.isOpen then passedOverAll (around ++ [spec.key]) fields
    else everywhereAll (around ++ [spec.key]) fields

def passedOverAll (around : List String) : List Field → List Visit
  | [] => []
  | field :: rest => passedOver around field ++ passedOverAll around rest

end

mutual

/-- The field with empty records in the stead of closed ones. -/
def pruned : Field → Field
  | .scalar spec => .scalar spec
  | .record spec typeName fields =>
    .record spec typeName (if spec.isOpen then prunedAll fields else [])

def prunedAll : List Field → List Field
  | [] => []
  | field :: rest => pruned field :: prunedAll rest

end

mutual

theorem mem_everywhere {around : List String} {field : Field} {visit : Visit} :
    visit ∈ everywhere around field ↔ visit ∈ visits around field ∨ visit ∈ passedOver around field := by
  cases field with
  | scalar spec => simp [everywhere, visits, passedOver]
  | record spec typeName fields =>
    rw [everywhere, visits, passedOver, List.mem_cons, List.mem_cons, or_assoc]
    refine or_congr_right ?_
    cases spec.isOpen with
    | true => exact mem_everywhereAll
    | false => simp

theorem mem_everywhereAll {around : List String} {fields : List Field} {visit : Visit} :
    visit ∈ everywhereAll around fields ↔
      visit ∈ visitsAll around fields ∨ visit ∈ passedOverAll around fields := by
  cases fields with
  | nil => simp [everywhereAll, visitsAll, passedOverAll]
  | cons field rest =>
    simp only [everywhereAll, visitsAll, passedOverAll, List.mem_append, mem_everywhere,
      mem_everywhereAll, or_or_or_comm]

end

end Field

namespace Descriptor

def everyField (descriptor : Descriptor) : List Visit :=
  Field.everywhereAll [] descriptor.fields

def passedOver (descriptor : Descriptor) : List Visit :=
  Field.passedOverAll [] descriptor.fields

def pruned (descriptor : Descriptor) : Descriptor :=
  { descriptor with fields := Field.prunedAll descriptor.fields }

theorem mem_everyField {descriptor : Descriptor} {visit : Visit} :
    visit ∈ descriptor.everyField ↔ visit ∈ descriptor.visits ∨ visit ∈ descriptor.passedOver :=
  Field.mem_everywhereAll

end Descriptor

namespace Schema

variable {formatters : Registry}

mutual

theorem buildField_pruned (path around : List String) (field : Field) (next : Nat) :
    buildField formatters path around field.pruned next =
      buildField formatters path around field next := by
  cases field with
  | scalar spec => rfl
  | record spec typeName fields =>
    rw [Field.pruned, buildField, buildField, ← FieldSpec.isSome_activeGroup?]
    cases spec.activeGroup? with
    | none => rfl
    | some group =>
      simp only [Option.isSome_some, if_true, buildFields_pruned _ _ fields]

theorem buildFields_pruned (path around : List String) (fields : List Field) (next : Nat) :
    buildFields formatters path around (Field.prunedAll fields) next =
      buildFields formatters path around fields next := by
  cases fields with
  | nil => rfl
  | cons field rest =>
    rw [Field.prunedAll, buildFields, buildFields, buildField_pruned path around field]
    simp only [buildFields_pruned path around rest]

end

/-- What is inside closed records has no part in a schema. -/
theorem build_pruned (descriptor : Descriptor) (formatters : Registry) :
    build descriptor.pruned formatters = build descriptor formatters := by
  rw [build, Descriptor.pruned, buildFields_pruned, build]

theorem resolved_iff_of_build {descriptor : Descriptor} {schema : Schema}
    (built : build descriptor formatters = .ok schema) :
    (∀ visit ∈ descriptor.everyField, visit.Resolved formatters) ↔
      ∀ visit ∈ descriptor.passedOver, visit.Resolved formatters := by
  have visited := exists_build_eq_ok_iff.1 ⟨schema, built⟩
  constructor
  · intro all visit member
    exact all visit (Descriptor.mem_everyField.2 (.inr member))
  · intro passed visit member
    exact (Descriptor.mem_everyField.1 member).elim (visited visit) (passed visit)

end Schema

end StatusReport
