import StatusReport.Proofs.Places
import StatusReport.Proofs.Report.ShownColumns

/-! # Numbers of nodes

Building a schema takes the next free number before it goes into a group, so the nodes are numbered
in the order of a walk that comes to a group before what is in it. A schema has as many numbers as
nodes, and whatever is found by number is found for one node only: the slots of a visibility and the
groups of columns.

* `Schema.labels`: all nodes in order, the root first.
* `Visibility.slotWrites`, `Visibility.writes`: what resolving writes, and where.
* `nodes_are_numbered`: the numbers of a schema and what is found by them.
-/

namespace StatusReport

/-! ## All nodes -/

/-- The node that holds all others. No key leads to it. -/
def Schema.root (s : Schema) : Label where
  id := 0
  path := []
  key := ""
  selector := []
  title := s.name
  defaultText := ""
  formatter := none

/-- All nodes in order, each group before what is in it. -/
def Schema.labels (s : Schema) : List Label := s.root :: s.nodes.map (·.label)

theorem Schema.leaves_eq_filter (s : Schema) :
    s.leaves = (s.nodes.filter (!·.isGroup)).map (·.label) := by
  rw [nodes, Node.flatAll_filter_leaf, List.map_map]
  exact (List.map_id _).symm

theorem Node.isGroup_of_children {node : Node} (filled : node.children ≠ []) :
    node.isGroup = true := by
  cases node with
  | leaf label => exact absurd rfl filled
  | group label name flatten children => rfl

/-! ## Writing slots -/

namespace Visibility

def writeSlot? (slots : List Bool) (write : Nat × Bool) : Option (List Bool) :=
  if write.1 < slots.length then some (slots.set write.1 write.2) else none

mutual

/-- The numbers of a node and of all below it, each with what is written to its slot, in the order of
    writing. -/
def slotWrites (directive : Directive) (inherited : Bool) : Node → List (Nat × Bool)
  | .leaf label => [(label.id, directive.shows label.address inherited)]
  | .group label _ _ children =>
    let shown := directive.shows label.address inherited
    (label.id, shown) :: slotWritesAll directive shown children

def slotWritesAll (directive : Directive) (inherited : Bool) : List Node → List (Nat × Bool)
  | [] => []
  | node :: rest => slotWrites directive inherited node ++ slotWritesAll directive inherited rest

end

/-- What resolving a schema writes, the slot of the root first. -/
def writes (schema : Schema) (directive : Directive) : List (Nat × Bool) :=
  (schema.root.id, directive.rootDefault) ::
    slotWritesAll directive directive.rootDefault schema.roots

mutual

theorem fillNode_eq (directive : Directive) (inherited : Bool) (node : Node) (slots : List Bool) :
    fillNode directive inherited node slots =
      (slotWrites directive inherited node).foldl (fun slots w => slots.set w.1 w.2) slots := by
  cases node with
  | leaf label => rfl
  | group label name flatten children =>
    rw [fillNode, slotWrites, List.foldl_cons, fillNodes_eq]

theorem fillNodes_eq (directive : Directive) (inherited : Bool) (nodes : List Node)
    (slots : List Bool) :
    fillNodes directive inherited nodes slots =
      (slotWritesAll directive inherited nodes).foldl (fun slots w => slots.set w.1 w.2) slots := by
  cases nodes with
  | nil => rfl
  | cons node rest =>
    rw [fillNodes, slotWritesAll, List.foldl_append, fillNode_eq, fillNodes_eq]

end

mutual

theorem numbers_slotWrites (directive : Directive) (inherited : Bool) (node : Node) :
    (slotWrites directive inherited node).map (·.1) = node.flat.map (·.label.id) := by
  cases node with
  | leaf label => rfl
  | group label name flatten children =>
    rw [slotWrites, Node.flat, List.map_cons, List.map_cons, numbers_slotWritesAll]
    rfl

/-- Each node has its slot written once, in the order of the nodes. -/
theorem numbers_slotWritesAll (directive : Directive) (inherited : Bool) (nodes : List Node) :
    (slotWritesAll directive inherited nodes).map (·.1) =
      (Node.flatAll nodes).map (·.label.id) := by
  cases nodes with
  | nil => rfl
  | cons node rest =>
    rw [slotWritesAll, Node.flatAll, List.map_append, List.map_append, numbers_slotWrites,
      numbers_slotWritesAll]

end

theorem foldlM_writeSlot? {ws : List (Nat × Bool)} {slots : List Bool}
    (inside : ∀ id ∈ ws.map (·.1), id < slots.length) :
    ws.foldlM writeSlot? slots = some (ws.foldl (fun slots w => slots.set w.1 w.2) slots) := by
  induction ws generalizing slots with
  | nil => rfl
  | cons w rest ih =>
    rw [List.map_cons, List.forall_mem_cons] at inside
    have written : writeSlot? slots w = some (slots.set w.1 w.2) := if_pos inside.1
    rw [List.foldlM_cons, written, List.foldl_cons, ← ih (by simpa using inside.2)]
    rfl

end Visibility

/-! ## Numbers -/

section Numbers

variable {descriptor : Descriptor} {formatters : Registry} {schema : Schema}
  (built : Schema.build descriptor formatters = .ok schema)

include built

theorem numbers_labels : schema.labels.map (·.id) = List.range schema.size := by
  have tree := (Schema.build_eq_ok_iff.1 built).2
  have below := tree.numbers
  have filled := tree.le
  rw [Schema.labels, List.map_cons, List.map_map, List.range_eq_range',
    show schema.size = schema.size - 1 + 1 by omega, List.range'_succ]
  exact congrArg _ below

theorem numbers_writes (directive : Directive) :
    (Visibility.writes schema directive).map (·.1) = List.range schema.size := by
  rw [← numbers_labels built, Visibility.writes, Schema.labels, List.map_cons, List.map_cons,
    Visibility.numbers_slotWritesAll, List.map_map]
  rfl

/-- Resolving is writing these slots, all of which there are. -/
theorem slots_resolve (directive : Directive) :
    (Visibility.writes schema directive).foldlM Visibility.writeSlot?
        (List.replicate schema.size false) =
      some (Visibility.resolve schema directive).slots := by
  have inside : ∀ id ∈ (Visibility.writes schema directive).map (·.1),
      id < (List.replicate schema.size false).length := by
    intro id member
    rw [numbers_writes built, List.mem_range] at member
    rwa [List.length_replicate]
  rw [Visibility.foldlM_writeSlot? inside, Visibility.resolve, Visibility.fillNodes_eq]
  rfl

theorem ascending_leaves : (schema.leaves.map (·.id)).Pairwise (· < ·) := by
  have nodes : (schema.nodes.map (·.label.id)).Pairwise (· < ·) := by
    rw [Schema.nodes, (Schema.build_eq_ok_iff.1 built).2.numbers]
    exact List.pairwise_lt_range'
  have leaves : (schema.leaves.map (·.id)).Sublist (schema.nodes.map (·.label.id)) := by
    rw [schema.leaves_eq_filter, List.map_map]
    exact List.filter_sublist.map _
  exact nodes.sublist leaves

theorem group_of_number {visibility : Visibility} {column : Column}
    (member : column ∈ columns schema visibility) {group : ColumnGroup}
    (grouped : column.group = some group) :
    ∃ label children, .group label group.name false children ∈ schema.nodes ∧
      label.id = group.id ∧ ∀ node ∈ schema.nodes, node.label.id = group.id →
        node = .group label group.name false children := by
  obtain ⟨box, found, boxed⟩ := box_of_group member grouped
  obtain ⟨label, children, rfl, number⟩ := Node.box?_eq_some boxed
  refine ⟨label, children, found, number, fun node here same => ?_⟩
  exact List.inj_on_of_nodup_map (Visibility.numbers_nodup built) here found
    (same.trans number.symm)

end Numbers

/-- The nodes of a schema, the root first and each group before what is in it, have the numbers from
    zero up to its size, each of them once and in order. The leaves are the nodes that are no groups,
    in the same order, so their numbers go up; what has nodes in it is a group; and a group of columns
    is the one node that has its number. Resolving a schema writes the slot of each number once, in
    order, and the slot is always there. -/
theorem nodes_are_numbered {descriptor : Descriptor} {formatters : Registry} {schema : Schema}
    (built : Schema.build descriptor formatters = .ok schema) :
    schema.labels.map (·.id) = List.range schema.size ∧ schema.labels.length = schema.size ∧
      (schema.leaves.map (·.id)).Pairwise (· < ·) ∧
      schema.leaves = (schema.nodes.filter (!·.isGroup)).map (·.label) ∧
      (∀ node ∈ schema.nodes, node.children ≠ [] → node.isGroup = true) ∧
      (∀ visibility, ∀ column ∈ columns schema visibility, ∀ group, column.group = some group →
        ∃ label children, .group label group.name false children ∈ schema.nodes ∧
          label.id = group.id ∧ ∀ node ∈ schema.nodes, node.label.id = group.id →
            node = .group label group.name false children) ∧
      ∀ directive, (Visibility.writes schema directive).map (·.1) = List.range schema.size ∧
        (Visibility.writes schema directive).foldlM Visibility.writeSlot?
          (List.replicate schema.size false) = some (Visibility.resolve schema directive).slots := by
  have numbers := numbers_labels built
  have count := congrArg List.length numbers
  rw [List.length_map, List.length_range] at count
  exact ⟨numbers, count, ascending_leaves built, schema.leaves_eq_filter,
    fun _ _ => Node.isGroup_of_children, fun _ _ member _ => group_of_number built member,
    fun directive => ⟨numbers_writes built directive, slots_resolve built directive⟩⟩

/-- The seven nodes of a machine have the numbers after that of the root, and its leaves are the
    first, the third, the sixth and the seventh of them. -/
theorem nodes_are_numbered_machines :
    Sample.machineSchema.labels.map (·.id) = [0, 1, 2, 3, 4, 5, 6, 7] ∧
      Sample.machineSchema.leaves.map (·.id) = [1, 3, 6, 7] ∧
      ∀ directive, (Visibility.writes Sample.machineSchema directive).map (·.1) =
        [0, 1, 2, 3, 4, 5, 6, 7] := by
  obtain ⟨numbers, -, -, -, -, -, writes⟩ := nodes_are_numbered Sample.build_machines
  exact ⟨numbers, rfl, fun directive => (writes directive).1⟩

end StatusReport
