import Mathlib.Data.List.Forall2
import StatusReport.Proofs.Schema.Built

/-! # The walk over a descriptor

Building a schema visits fields depth first, a field before those inside it. It goes into a record
field only if that has a group specification and names no formatter. Each field that is visited is
checked, so the walk as a list decides whether building succeeds: the first visited field with a
formatter that there is not is the error. If there is none, every visited field becomes a node.

* `Visit`: a field, and the keys of the groups around it.
* `Descriptor.visits`: the walk.
* `build_eq_error_iff`, `exists_build_eq_ok_iff`: the outcome of building.
* `build_congr`: it depends on which formatters there are.
* `Built.madeOf`, `Built.exists_visit`: the nodes of a schema, visit by visit.
* `Field.leafSelectors`, `Built.map_selector_leaves`: where the leaves are in a record.
-/

namespace StatusReport

/-- A field that is visited, and the keys of the groups around it, the outermost first. -/
structure Visit where
  around : List String
  field : Field

namespace Visit

def selector (visit : Visit) : List String := visit.around ++ [visit.field.spec.key]

def Resolved (formatters : Registry) (visit : Visit) : Prop :=
  ∀ id, visit.field.spec.format = some id → ∃ f, formatters.get? id = some f

def unknown? (formatters : Registry) (visit : Visit) : Option SchemaError :=
  match visit.field.spec.format with
  | none => none
  | some id =>
    match formatters.get? id with
    | some _ => none
    | none => some (.unknownFormatter (".".intercalate visit.selector) id)

def below (key : String) (visit : Visit) : Visit := { visit with around := key :: visit.around }

end Visit

/-- Whether the walk goes into a record field. -/
def FieldSpec.isOpen (spec : FieldSpec) : Bool := spec.group.isSome && spec.format.isNone

namespace Field

mutual

/-- The visits to a field and those inside it. -/
def visits (around : List String) : Field → List Visit
  | .scalar spec => [⟨around, .scalar spec⟩]
  | .record spec typeName fields =>
    ⟨around, .record spec typeName fields⟩ ::
      if spec.isOpen then visitsAll (around ++ [spec.key]) fields else []

def visitsAll (around : List String) : List Field → List Visit
  | [] => []
  | field :: rest => visits around field ++ visitsAll around rest

end

end Field

def Descriptor.visits (descriptor : Descriptor) : List Visit :=
  Field.visitsAll [] descriptor.fields

def Field.leafSelectors (fields : List Field) : List (List String) :=
  ((visitsAll [] fields).filter (·.field.group?.isNone)).map Visit.selector

/-! ## Fields inside groups -/

theorem FieldSpec.isSome_activeGroup? (spec : FieldSpec) :
    spec.activeGroup?.isSome = spec.isOpen := by
  rw [activeGroup?, isOpen]
  cases spec.format <;> simp

namespace Field

theorem visits_of_single (around : List String) {field : Field} (single : field.group? = none) :
    visits around field = [⟨around, field⟩] := by
  cases field with
  | scalar spec => rfl
  | record spec typeName fields =>
    rw [group?, Option.map_eq_none_iff] at single
    rw [visits, ← FieldSpec.isSome_activeGroup?, single]
    rfl

theorem visits_of_group (around : List String) {field : Field} {group : GroupSpec}
    {inner : List Field} (grouped : field.group? = some (group, inner)) :
    visits around field = ⟨around, field⟩ :: visitsAll (around ++ [field.spec.key]) inner := by
  cases field with
  | scalar spec => cases grouped
  | record spec typeName fields =>
    simp only [group?, Option.map_eq_some_iff, Prod.mk.injEq] at grouped
    obtain ⟨found, active, rfl, rfl⟩ := grouped
    rw [visits, ← FieldSpec.isSome_activeGroup?, active]
    rfl

theorem visitsAll_append (around : List String) (a b : List Field) :
    visitsAll around (a ++ b) = visitsAll around a ++ visitsAll around b := by
  induction a with
  | nil => rfl
  | cons field rest ih =>
    rw [List.cons_append, visitsAll, visitsAll, ih, List.append_assoc]

mutual

theorem visits_below (key : String) (around : List String) (field : Field) :
    visits (key :: around) field = (visits around field).map (.below key) := by
  cases field with
  | scalar spec => rfl
  | record spec typeName fields =>
    rw [visits, visits, List.map_cons]
    refine congrArg (_ :: ·) ?_
    cases spec.isOpen with
    | true => exact visitsAll_below key (around ++ [spec.key]) fields
    | false => rfl

theorem visitsAll_below (key : String) (around : List String) (fields : List Field) :
    visitsAll (key :: around) fields = (visitsAll around fields).map (.below key) := by
  cases fields with
  | nil => rfl
  | cons field rest =>
    rw [visitsAll, visitsAll, List.map_append, visits_below key around field,
      visitsAll_below key around rest]

end

end Field

/-! ## Errors -/

namespace Visit

theorem unknown?_eq_none_iff {formatters : Registry} {visit : Visit} :
    visit.unknown? formatters = none ↔ visit.Resolved formatters := by
  rw [unknown?, Resolved]
  cases visit.field.spec.format with
  | none => simp
  | some id => cases found : formatters.get? id <;> simp [found]

theorem unknown?_eq_some_iff {formatters : Registry} {visit : Visit} {e : SchemaError} :
    visit.unknown? formatters = some e ↔
      ∃ id, visit.field.spec.format = some id ∧ formatters.get? id = none ∧
        e = .unknownFormatter (".".intercalate visit.selector) id := by
  rw [unknown?]
  cases visit.field.spec.format with
  | none => simp
  | some id => cases found : formatters.get? id <;> simp [found, eq_comm]

theorem resolved_below {formatters : Registry} {key : String} {visit : Visit} :
    (visit.below key).Resolved formatters ↔ visit.Resolved formatters := Iff.rfl

theorem unknown?_congr {formatters formatters' : Registry}
    (names : ∀ id, formatters.contains id = formatters'.contains id) (visit : Visit) :
    visit.unknown? formatters = visit.unknown? formatters' := by
  rw [unknown?, unknown?]
  cases visit.field.spec.format with
  | none => rfl
  | some id =>
    have known := names id
    cases found : formatters.get? id <;> cases found' : formatters'.get? id <;>
      simp [Registry.contains, found, found'] at known ⊢

end Visit

namespace Schema

variable {formatters : Registry}

theorem checkFormat_eq (formatters : Registry) (around : List String) (field : Field) :
    checkFormat formatters around field.spec =
      match Visit.unknown? formatters ⟨around, field⟩ with
      | none => .ok ()
      | some e => .error e := by
  rw [checkFormat, Visit.unknown?]
  cases field.spec.format with
  | none => rfl
  | some id => cases found : formatters.get? id <;> simp [Registry.contains, found, Visit.selector]

mutual

theorem buildField_eq_error_iff (path around : List String) (field : Field) (next : Nat)
    (e : SchemaError) :
    buildField formatters path around field next = .error e ↔
      (field.visits around).findSome? (·.unknown? formatters) = some e := by
  cases field with
  | scalar spec =>
    rw [buildField, Field.visits, List.findSome?_singleton]
    have checked := checkFormat_eq formatters around (.scalar spec)
    rw [Field.spec] at checked
    rw [checked]
    cases Visit.unknown? formatters ⟨around, .scalar spec⟩ <;> simp
  | record spec typeName fields =>
    have checked := checkFormat_eq formatters around (.record spec typeName fields)
    rw [Field.spec] at checked
    -- The field itself is checked before the fields inside it, by the walk as by the builder.
    rw [buildField, Field.visits, List.findSome?_cons, ← FieldSpec.isSome_activeGroup?, checked]
    cases Visit.unknown? formatters ⟨around, .record spec typeName fields⟩ with
    | some e' => simp
    | none =>
      cases spec.activeGroup? with
      | none => simp
      | some group =>
        simp only [Option.isSome_some, if_true]
        rw [← buildFields_eq_error_iff (if group.flatten then path else []) _ fields (next + 1)]
        cases buildFields formatters (if group.flatten then path else [])
          (around ++ [spec.key]) fields (next + 1) <;> simp

theorem buildFields_eq_error_iff (path around : List String) (fields : List Field) (next : Nat)
    (e : SchemaError) :
    buildFields formatters path around fields next = .error e ↔
      (Field.visitsAll around fields).findSome? (·.unknown? formatters) = some e := by
  cases fields with
  | nil => simp [buildFields, Field.visitsAll]
  | cons field rest =>
    rw [buildFields, Field.visitsAll, List.findSome?_append]
    cases first : buildField formatters path around field next with
    | error e' => simp [(buildField_eq_error_iff _ _ _ _ _).1 first]
    | ok made =>
      obtain ⟨node, middle⟩ := made
      -- No visit to the field fails, so the first one that does is among the others.
      have passed : (field.visits around).findSome? (·.unknown? formatters) = none := by
        cases found : (field.visits around).findSome? (·.unknown? formatters) with
        | none => rfl
        | some e' => cases first.symm.trans ((buildField_eq_error_iff _ _ _ _ _).2 found)
      rw [passed, Option.none_or, ← buildFields_eq_error_iff path around rest middle]
      cases others : buildFields formatters path around rest middle <;> simp [others]

end

/-- Building fails as the first visit does that fails. -/
theorem build_eq_error_iff {descriptor : Descriptor} {e : SchemaError} :
    build descriptor formatters = .error e ↔
      descriptor.visits.findSome? (·.unknown? formatters) = some e := by
  rw [Descriptor.visits, ← buildFields_eq_error_iff [] [] _ 1, build]
  cases buildFields formatters [] [] descriptor.fields 1 <;> simp

theorem exists_build_eq_ok_iff {descriptor : Descriptor} :
    (∃ schema, build descriptor formatters = .ok schema) ↔
      ∀ visit ∈ descriptor.visits, visit.Resolved formatters := by
  have passed : (∀ visit ∈ descriptor.visits, visit.Resolved formatters) ↔
      descriptor.visits.findSome? (·.unknown? formatters) = none := by
    simp only [List.findSome?_eq_none_iff, Visit.unknown?_eq_none_iff]
  rw [passed]
  cases made : build descriptor formatters with
  | error e => simp [build_eq_error_iff.1 made]
  | ok schema =>
    simp only [Except.ok.injEq, exists_eq', true_iff]
    cases found : descriptor.visits.findSome? (·.unknown? formatters) with
    | none => rfl
    | some e => cases made.symm.trans (build_eq_error_iff.2 found)

/-- What is built depends on which formatters there are, and not on what they make of values. -/
theorem build_congr {formatters' : Registry} (descriptor : Descriptor)
    (names : ∀ id, formatters.contains id = formatters'.contains id) :
    build descriptor formatters = build descriptor formatters' := by
  have unknown : (fun visit : Visit => visit.unknown? formatters) =
      fun visit => visit.unknown? formatters' := funext (Visit.unknown?_congr names)
  cases made : build descriptor formatters with
  | error e =>
    have first := build_eq_error_iff.1 made
    rw [unknown] at first
    exact (build_eq_error_iff.2 first).symm
  | ok schema =>
    have passed := exists_build_eq_ok_iff.1 ⟨schema, made⟩
    simp only [← Visit.unknown?_eq_none_iff, congrFun unknown] at passed
    simp only [Visit.unknown?_eq_none_iff] at passed
    obtain ⟨schema', made'⟩ := exists_build_eq_ok_iff.2 passed
    rw [made', build_unique made made']

end Schema

/-! ## Nodes -/

def Node.groupSpec? : Node → Option GroupSpec
  | .leaf _ => none
  | .group _ name flatten _ => some ⟨name, flatten⟩

@[simp] theorem Schema.address_labelOf (around : List String) (spec : FieldSpec) (id : Nat) :
    (labelOf [] around spec id).address = spec.key := by
  rw [Label.address]
  by_cases empty : spec.key = "" <;> simp [labelOf, empty]

/-- A node is made of a visited field. -/
structure Node.MadeOf (node : Node) (visit : Visit) : Prop where
  label : node.label = Schema.labelOf [] visit.around visit.field.spec node.label.id
  group : node.groupSpec? = visit.field.group?.map (·.1)

theorem forall₂_split {α β : Type _} {R : α → β → Prop} {before after : List α} {a : α}
    {whole : List β} (h : List.Forall₂ R (before ++ a :: after) whole) :
    ∃ before' b after', whole = before' ++ b :: after' ∧ List.Forall₂ R before before' ∧ R a b ∧
      List.Forall₂ R after after' := by
  induction before generalizing whole with
  | nil =>
    obtain _ | ⟨here, later⟩ := h
    exact ⟨[], _, _, rfl, .nil, here, later⟩
  | cons first rest ih =>
    obtain _ | ⟨here, later⟩ := h
    obtain ⟨before', b, after', rfl, front, middle, back⟩ := ih later
    exact ⟨_ :: before', b, after', rfl, .cons here front, middle, back⟩

namespace Schema

variable {formatters : Registry}

/-- Every visit makes a node. The path is empty at every depth: boxed groups start afresh, and flatten
    groups pass on an empty one. -/
theorem Built.madeOf {path around : List String} {fields : List Field} {next after : Nat}
    {nodes : List Node} (built : Built formatters path around fields next nodes after)
    (top : path = []) :
    List.Forall₂ Node.MadeOf (Node.flatAll nodes) (Field.visitsAll around fields) := by
  induction built with
  | nil => exact .nil
  | leaf _ single _ ih =>
    subst top
    rw [Field.visitsAll, Field.visits_of_single _ single]
    exact .cons ⟨rfl, by rw [single]; rfl⟩ (ih rfl)
  | group _ grouped _ _ inside ih =>
    subst top
    rw [Field.visitsAll, Field.visits_of_group _ grouped]
    exact .cons ⟨rfl, by rw [grouped]; rfl⟩ (List.rel_append (inside (ite_self _)) (ih rfl))

theorem Built.exists_visit {around : List String} {fields : List Field} {next after : Nat}
    {nodes : List Node} (built : Built formatters [] around fields next nodes after) {node : Node}
    (member : node ∈ Node.flatAll nodes) :
    ∃ visit ∈ Field.visitsAll around fields, node.MadeOf visit := by
  obtain ⟨before, after, split⟩ := List.append_of_mem member
  have made := built.madeOf rfl
  rw [split] at made
  obtain ⟨before', visit, after', visits, -, here, -⟩ := forall₂_split made
  exact ⟨visit, by rw [visits]; exact List.mem_append_right _ List.mem_cons_self, here⟩

theorem madeOf_visits {descriptor : Descriptor} {schema : Schema}
    (built : build descriptor formatters = .ok schema) :
    List.Forall₂ Node.MadeOf schema.nodes descriptor.visits :=
  (build_eq_ok_iff.1 built).2.madeOf rfl

/-! ## Leaves -/

theorem Built.map_selector_leaves {path around : List String} {fields : List Field}
    {next after : Nat} {nodes : List Node}
    (built : Built formatters path around fields next nodes after) :
    (Node.leavesOf nodes).map (·.selector) =
      ((Field.visitsAll around fields).filter (·.field.group?.isNone)).map Visit.selector := by
  induction built with
  | nil => rfl
  | leaf _ single _ ih =>
    rw [Field.visitsAll, Field.visits_of_single _ single, List.singleton_append, Node.leavesOf,
      Node.leaves, List.singleton_append, List.filter_cons_of_pos (by simp [single]), List.map_cons,
      List.map_cons, ih]
    rfl
  | group _ grouped _ _ inside ih =>
    rw [Field.visitsAll, Field.visits_of_group _ grouped, List.cons_append, Node.leavesOf,
      Node.leaves, List.filter_cons_of_neg (by simp [grouped]), List.filter_append, List.map_append,
      List.map_append, inside, ih]

theorem Built.mem_leafSelectors {fields : List Field} {next after : Nat} {nodes : List Node}
    (built : Built formatters [] [] fields next nodes after) {leaf : Label}
    (member : leaf ∈ Node.leavesOf nodes) : leaf.selector ∈ Field.leafSelectors fields := by
  rw [Field.leafSelectors, ← built.map_selector_leaves]
  exact List.mem_map_of_mem member

theorem Built.selector_ne_nil {fields : List Field} {next after : Nat} {nodes : List Node}
    (built : Built formatters [] [] fields next nodes after) {leaf : Label}
    (member : leaf ∈ Node.leavesOf nodes) : leaf.selector ≠ [] := by
  obtain ⟨visit, -, selector⟩ := List.mem_map.1 (built.mem_leafSelectors member)
  rw [← selector]
  exact List.append_ne_nil_of_right_ne_nil _ (List.cons_ne_nil _ _)

end Schema

end StatusReport
