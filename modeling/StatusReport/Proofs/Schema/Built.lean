import StatusReport.Schema.Basic

/-! # What building a schema makes

`Built` relates fields side by side to the nodes that are made of them: every field is checked, and
is a leaf or a group whose own fields are built in their turn. It is what `buildFields` computes,
and invariants of a schema are inductions on it.

* `Schema.Built`: the relation.
* `buildFields_eq_ok_iff`: building computes it.
* `build_unique`: formatters do not matter for what is built.
* `Built.numbers`: nodes are numbered depth first without a gap.
* `Built.known`: every leaf has a formatter that there is, or none.
* `Built.take`: the first nodes are those of the first fields.
-/

namespace StatusReport.Schema

/-- Fields side by side, the nodes made of them, and the numbers free before and after. -/
inductive Built (formatters : Registry) : List String → List String → List Field → Nat →
    List Node → Nat → Prop where
  | nil {path selector : List String} {next : Nat} :
      Built formatters path selector [] next [] next
  | leaf {path selector : List String} {field : Field} {rest : List Field} {next after : Nat}
      {nodes : List Node}
      (checked : checkFormat formatters selector field.spec = .ok ())
      (single : field.group? = none)
      (others : Built formatters path selector rest (next + 1) nodes after) :
      Built formatters path selector (field :: rest) next
        (.leaf (labelOf path selector field.spec next) :: nodes) after
  | group {path selector : List String} {field : Field} {rest inner : List Field}
      {next middle after : Nat} {nodes children : List Node} {group : GroupSpec}
      (checked : checkFormat formatters selector field.spec = .ok ())
      (grouped : field.group? = some (group, inner))
      (inside : Built formatters (if group.flatten then path else [])
        (selector ++ [field.spec.key]) inner (next + 1) children middle)
      (others : Built formatters path selector rest middle nodes after) :
      Built formatters path selector (field :: rest) next
        (.group (labelOf path selector field.spec next) group.name group.flatten children :: nodes)
        after

variable {formatters : Registry} {path selector : List String} {fields : List Field}
  {next after : Nat} {nodes : List Node}

/-! ## Building computes the relation -/

mutual

theorem Built.cons {path selector : List String} {next middle after : Nat} {node : Node}
    {nodes : List Node} {rest : List Field} (field : Field)
    (made : buildField formatters path selector field next = .ok (node, middle))
    (others : Built formatters path selector rest middle nodes after) :
    Built formatters path selector (field :: rest) next (node :: nodes) after := by
  cases field with
  | scalar spec =>
    rw [buildField] at made
    cases checked : checkFormat formatters selector spec with
    | error e => simp [checked] at made
    | ok _ =>
      simp only [checked, Except.ok.injEq, Prod.mk.injEq] at made
      obtain ⟨rfl, rfl⟩ := made
      exact .leaf checked rfl others
  | record spec typeName inner =>
    rw [buildField] at made
    cases checked : checkFormat formatters selector spec with
    | error e => simp [checked] at made
    | ok _ =>
      cases active : spec.activeGroup? with
      | none =>
        simp only [checked, active, Except.ok.injEq, Prod.mk.injEq] at made
        obtain ⟨rfl, rfl⟩ := made
        exact .leaf checked
          (by simp [Field.group?, active]) others
      | some group =>
        simp only [checked, active] at made
        -- The fields inside are built by the other function, on a shorter list.
        cases inside : buildFields formatters (if group.flatten then path else [])
            (selector ++ [spec.key]) inner (next + 1) with
        | error e => simp [inside] at made
        | ok result =>
          obtain ⟨children, last⟩ := result
          simp only [inside, Except.ok.injEq, Prod.mk.injEq] at made
          obtain ⟨rfl, rfl⟩ := made
          exact .group checked
            (by simp [Field.group?, active]) (built_of_buildFields inner inside) others

theorem built_of_buildFields {path selector : List String} {next after : Nat}
    {nodes : List Node} (fields : List Field)
    (made : buildFields formatters path selector fields next = .ok (nodes, after)) :
    Built formatters path selector fields next nodes after := by
  cases fields with
  | nil =>
    rw [buildFields] at made
    simp only [Except.ok.injEq, Prod.mk.injEq] at made
    obtain ⟨rfl, rfl⟩ := made
    exact .nil
  | cons field rest =>
    rw [buildFields] at made
    cases first : buildField formatters path selector field next with
    | error e => simp [first] at made
    | ok result =>
      obtain ⟨node, middle⟩ := result
      cases others : buildFields formatters path selector rest middle with
      | error e => simp [first, others] at made
      | ok result =>
        obtain ⟨more, last⟩ := result
        simp only [first, others, Except.ok.injEq, Prod.mk.injEq] at made
        obtain ⟨rfl, rfl⟩ := made
        exact .cons field first (built_of_buildFields rest others)

end

theorem buildField_of_single {field : Field}
    (checked : checkFormat formatters selector field.spec = .ok ())
    (single : field.group? = none) :
    buildField formatters path selector field next =
      .ok (.leaf (labelOf path selector field.spec next), next + 1) := by
  cases field with
  | scalar spec =>
    rw [Field.spec] at checked ⊢
    simp only [buildField, checked]
  | record spec typeName inner =>
    rw [Field.spec] at checked ⊢
    rw [Field.group?, Option.map_eq_none_iff] at single
    simp only [buildField, checked, single]

theorem buildField_of_group {field : Field} {inner : List Field} {group : GroupSpec}
    {children : List Node} {middle : Nat}
    (checked : checkFormat formatters selector field.spec = .ok ())
    (grouped : field.group? = some (group, inner))
    (inside : buildFields formatters (if group.flatten then path else [])
      (selector ++ [field.spec.key]) inner (next + 1) = .ok (children, middle)) :
    buildField formatters path selector field next =
      .ok (.group (labelOf path selector field.spec next) group.name group.flatten children,
        middle) := by
  cases field with
  | scalar spec => cases grouped
  | record spec typeName fields =>
    rw [Field.spec] at checked inside ⊢
    simp only [Field.group?, Option.map_eq_some_iff, Prod.mk.injEq] at grouped
    obtain ⟨found, active, rfl, rfl⟩ := grouped
    simp only [buildField, checked, active, inside]

theorem Built.buildFields_eq (built : Built formatters path selector fields next nodes after) :
    buildFields formatters path selector fields next = .ok (nodes, after) := by
  induction built with
  | nil => rfl
  | leaf checked single _ ih => simp only [buildFields, buildField_of_single checked single, ih]
  | group checked grouped _ _ inside ih =>
    simp only [buildFields, buildField_of_group checked grouped inside, ih]

theorem buildFields_eq_ok_iff :
    buildFields formatters path selector fields next = .ok (nodes, after) ↔
      Built formatters path selector fields next nodes after :=
  ⟨built_of_buildFields fields, Built.buildFields_eq⟩

/-- A schema is built of all fields of its descriptor, the root being node 0. -/
theorem build_eq_ok_iff {descriptor : Descriptor} {schema : Schema} :
    build descriptor formatters = .ok schema ↔
      schema.name = descriptor.name ∧
        Built formatters [] [] descriptor.fields 1 schema.roots schema.size := by
  rw [← buildFields_eq_ok_iff, build]
  cases buildFields formatters [] [] descriptor.fields 1 with
  | error e => simp
  | ok result =>
    obtain ⟨roots, size⟩ := result
    obtain ⟨name, roots', size'⟩ := schema
    simp [eq_comm]

/-! ## Formatters do not matter -/

/-- Which formatters there are decides whether nodes are built, but not which. -/
theorem Built.unique {formatters' : Registry} {nodes' : List Node} {after' : Nat}
    (built : Built formatters path selector fields next nodes after)
    (built' : Built formatters' path selector fields next nodes' after') :
    nodes = nodes' ∧ after = after' := by
  induction built generalizing nodes' after' with
  | nil =>
    cases built'
    exact ⟨rfl, rfl⟩
  | leaf _ single _ ih =>
    cases built' with
    | leaf _ _ others =>
      obtain ⟨rfl, rfl⟩ := ih others
      exact ⟨rfl, rfl⟩
    -- Whether a field is a leaf or a group does not depend on the formatters.
    | group _ grouped _ _ => cases single.symm.trans grouped
  | group _ grouped _ _ inside ih =>
    cases built' with
    | leaf _ single _ => cases grouped.symm.trans single
    | group _ grouped' inside' others =>
      cases grouped.symm.trans grouped'
      obtain ⟨rfl, rfl⟩ := inside inside'
      obtain ⟨rfl, rfl⟩ := ih others
      exact ⟨rfl, rfl⟩

theorem build_unique {formatters' : Registry} {descriptor : Descriptor} {schema schema' : Schema}
    (built : build descriptor formatters = .ok schema)
    (built' : build descriptor formatters' = .ok schema') : schema = schema' := by
  obtain ⟨name, nodes⟩ := build_eq_ok_iff.1 built
  obtain ⟨name', nodes'⟩ := build_eq_ok_iff.1 built'
  obtain ⟨roots, size⟩ := nodes.unique nodes'
  obtain ⟨_, _, _⟩ := schema
  obtain ⟨_, _, _⟩ := schema'
  cases name.trans name'.symm
  cases roots
  cases size
  rfl

/-! ## Numbers -/

namespace Built

theorem le (built : Built formatters path selector fields next nodes after) : next ≤ after := by
  induction built with
  | nil => exact Nat.le_refl _
  | leaf _ _ _ ih => omega
  | group _ _ _ _ inside others => omega

/-- Nodes are numbered depth first, each number once and without a gap. -/
theorem numbers (built : Built formatters path selector fields next nodes after) :
    (Node.flatAll nodes).map (·.label.id) = List.range' next (after - next) := by
  induction built with
  | nil => simp [Node.flatAll]
  | @leaf _ _ _ _ next after _ _ _ others ih =>
    have bound := others.le
    rw [show after - next = (after - (next + 1)) + 1 by omega, List.range'_succ, ← ih]
    rfl
  | @group _ _ _ _ _ next middle after _ children _ _ _ inside others ihInside ihOthers =>
    have bounds := And.intro inside.le others.le
    -- The numbers below the group and those after it close up.
    have split : List.range' (next + 1) (middle - (next + 1)) ++ List.range' middle (after - middle) =
        List.range' (next + 1) (after - (next + 1)) := by
      rw [show after - (next + 1) = (middle - (next + 1)) + (after - middle) by omega,
        ← List.range'_append_1, show next + 1 + (middle - (next + 1)) = middle by omega]
    rw [show after - next = (after - (next + 1)) + 1 by omega, List.range'_succ, ← split,
      ← ihInside, ← ihOthers, ← List.map_append]
    rfl

theorem number_mem (built : Built formatters path selector fields next nodes after) {node : Node}
    (h : node ∈ Node.flatAll nodes) : next ≤ node.label.id ∧ node.label.id < after := by
  have member : node.label.id ∈ (Node.flatAll nodes).map (·.label.id) := List.mem_map_of_mem h
  rw [built.numbers, List.mem_range'_1] at member
  have bound := built.le
  omega

end Built

/-! ## Formatters -/

theorem checkFormat_eq_ok_iff {spec : FieldSpec} :
    checkFormat formatters selector spec = .ok () ↔
      ∀ id, spec.format = some id → formatters.contains id = true := by
  rw [checkFormat]
  cases spec.format with
  | none => simp
  | some id => cases found : formatters.contains id <;> simp [found]

theorem Built.known (built : Built formatters path selector fields next nodes after) :
    ∀ leaf ∈ Node.leavesOf nodes, ∀ id, leaf.formatter = some id →
      formatters.contains id = true := by
  induction built with
  | nil => simp [Node.leavesOf]
  | leaf checked _ _ ih =>
    simp only [Node.leavesOf, Node.leaves, List.singleton_append]
    exact List.forall_mem_cons.2 ⟨checkFormat_eq_ok_iff.1 checked, ih⟩
  | group _ _ _ _ inside others =>
    simp only [Node.leavesOf, Node.leaves]
    exact List.forall_mem_append.2 ⟨inside, others⟩

/-! ## First fields -/

namespace Built

theorem keys (built : Built formatters path selector fields next nodes after) :
    nodes.map (·.label.key) = fields.map (·.spec.key) := by
  induction built with
  | nil => rfl
  | leaf _ _ _ ih => rw [List.map_cons, List.map_cons, ih]; rfl
  | group _ _ _ _ _ ih => rw [List.map_cons, List.map_cons, ih]; rfl

theorem take (built : Built formatters path selector fields next nodes after) (count : Nat) :
    ∃ middle, Built formatters path selector (fields.take count) next (nodes.take count) middle := by
  induction built generalizing count with
  | @nil _ _ next => exact ⟨next, by simpa using .nil⟩
  | @leaf _ _ _ _ next _ _ checked single _ ih =>
    cases count with
    | zero => exact ⟨next, .nil⟩
    | succ count =>
      obtain ⟨middle, others⟩ := ih count
      exact ⟨middle, .leaf checked single others⟩
  | @group _ _ _ _ _ next _ _ _ _ _ checked grouped inside _ _ ih =>
    cases count with
    | zero => exact ⟨next, .nil⟩
    | succ count =>
      obtain ⟨last, others⟩ := ih count
      exact ⟨last, .group checked grouped inside others⟩

end Built

end StatusReport.Schema
