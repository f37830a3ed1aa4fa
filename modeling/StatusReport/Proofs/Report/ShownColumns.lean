import StatusReport.Proofs.Lineage
import StatusReport.Proofs.Report.Refusal
import StatusReport.Proofs.Report.Script

/-! # The columns of a table are the shown leaves

Columns are collected by a walk of its own, which never asks whether a group is shown. It keeps the
leaves whose slots say so, and the group of a column is the nearest boxed one around its leaf. So a
table has exactly the leaves that their nearest listed nodes show.

* `nearestBox?`: the nearest boxed group around a leaf.
* `lineage_of_column`, `box_of_group`: the group of a column.
* `nearest_listed_decides`: what is shown, and which columns there are.
-/

namespace StatusReport

/-! ## Groups of columns -/

def Node.box? : Node → Option ColumnGroup
  | .group label name false _ => some ⟨label.id, name⟩
  | _ => none

theorem Node.box?_eq_some {node : Node} {group : ColumnGroup} (boxed : node.box? = some group) :
    ∃ label children, node = .group label group.name false children ∧ label.id = group.id := by
  cases node with
  | leaf label => cases boxed
  | group label name flatten children =>
    cases flatten with
    | true => cases boxed
    | false =>
      cases boxed
      exact ⟨label, children, rfl, rfl⟩

theorem Node.id_of_box? {node : Node} {group : ColumnGroup} (boxed : node.box? = some group) :
    node.label.id = group.id := by
  obtain ⟨label, children, rfl, number⟩ := Node.box?_eq_some boxed
  exact number

/-- The nearest boxed group among the nodes around a leaf. -/
def nearestBox? (around : List Node) : Option ColumnGroup := around.findSome? Node.box?

theorem nearestBox?_group (label : Label) (name : String) (flatten : Bool)
    (children around : List Node) :
    nearestBox? (.group label name flatten children :: around) =
      if flatten then nearestBox? around else some ⟨label.id, name⟩ := by
  cases flatten <;> rfl

section Groups

variable {roots : List Node}

mutual

theorem lineage_of_columnsOf (visibility : Visibility) {node : Node} {around : List Node}
    (here : Lineage roots (node :: around)) :
    ∀ column ∈ columnsOf visibility (nearestBox? around) node,
      ∃ others, Lineage roots (.leaf column.leaf :: others) ∧ column.group = nearestBox? others := by
  cases node with
  | leaf label =>
    intro column hc
    rw [columnsOf] at hc
    split at hc
    · rw [List.mem_singleton.1 hc]
      exact ⟨around, here, rfl⟩
    · cases hc
  | group label name flatten children =>
    -- The walk hands down what is the nearest box around the children.
    rw [columnsOf, ← nearestBox?_group label name flatten children]
    exact lineage_of_columnsOfAll visibility _ fun child h => .inner here h

theorem lineage_of_columnsOfAll (visibility : Visibility) (around : List Node) {nodes : List Node}
    (here : ∀ node ∈ nodes, Lineage roots (node :: around)) :
    ∀ column ∈ columnsOfAll visibility (nearestBox? around) nodes,
      ∃ others, Lineage roots (.leaf column.leaf :: others) ∧ column.group = nearestBox? others := by
  cases nodes with
  | nil => exact fun _ hc => nomatch hc
  | cons node rest =>
    obtain ⟨first, others⟩ := List.forall_mem_cons.1 here
    rw [columnsOfAll, List.forall_mem_append]
    exact ⟨lineage_of_columnsOf visibility first, lineage_of_columnsOfAll visibility around others⟩

end

end Groups

/-- The group of a column is the nearest boxed one around its leaf. -/
theorem lineage_of_column {schema : Schema} {visibility : Visibility} {column : Column}
    (h : column ∈ columns schema visibility) :
    ∃ around, Lineage schema.roots (.leaf column.leaf :: around) ∧
      column.group = nearestBox? around :=
  lineage_of_columnsOfAll visibility [] (fun _ top => .root top) column h

theorem box_of_group {visibility : Visibility} {nodes : List Node} {column : Column}
    (h : column ∈ columnsOfAll visibility none nodes) {group : ColumnGroup}
    (grouped : column.group = some group) :
    ∃ node ∈ Node.flatAll nodes, node.box? = some group := by
  obtain ⟨around, lineage, nearest⟩ :=
    lineage_of_columnsOfAll visibility [] (fun _ top => Lineage.root top) column h
  rw [grouped, nearestBox?, eq_comm, List.findSome?_eq_some_iff] at nearest
  obtain ⟨_, box, _, split, boxed, -⟩ := nearest
  refine ⟨box, lineage.mem_flatAll_of_mem ?_, boxed⟩
  rw [split]
  exact List.mem_cons_of_mem _ (List.mem_append_right _ List.mem_cons_self)

/-! ## What is shown -/

/-- A node is shown if the nearest listed node, going outwards from the node itself, is not hidden,
    and if none is listed, by default; the default is not to show once everything is to be hidden or
    a path without a dot is to be shown. Every node has a slot of its own for that. The columns of
    the table are the leaves that are shown, in order. -/
theorem nearest_listed_decides {descriptor : Descriptor} {options : ViewOptions} {schema : Schema}
    (built : Schema.build descriptor options.formatters = .ok schema) :
    let directive := options.directive
    let visibility := Visibility.resolve schema directive
    (∀ node, node ∈ schema.nodes ↔ ∃ around, Lineage schema.roots (node :: around)) ∧
    (∀ leaf ∈ schema.leaves, Node.leaf leaf ∈ schema.nodes) ∧
    (∀ node around, Lineage schema.roots (node :: around) →
      (∀ nearest, (node :: around).find? (fun n => directive.Lists n.label.address) = some nearest →
        (visibility.isShown node.label.id = true ↔ nearest.label.address ∉ directive.hidePaths)) ∧
      ((∀ n ∈ node :: around, ¬ directive.Lists n.label.address) →
        visibility.isShown node.label.id = directive.rootDefault) ∧
      visibility.slots[node.label.id]? = some (visibility.isShown node.label.id)) ∧
    (directive.rootDefault = false ↔
      directive.hideAllByDefault = true ∨ ∃ path ∈ directive.showPaths, '.' ∉ path.toList) ∧
    visibility.slots.length = schema.size ∧
    visibility.slots[0]? = some directive.rootDefault ∧
    (schema.nodes.map (·.label.id)).Nodup ∧
    (∀ node ∈ schema.nodes, 0 < node.label.id ∧ node.label.id < schema.size) ∧
    (TableView.ofDescriptor descriptor options).columns.map (·.leaf) =
      schema.leaves.filter (visibility.isShown ·.id) := by
  intro directive visibility
  -- All that is said of single nodes follows from their lineage.
  have follows := Visibility.followsAll_resolve built directive
  refine ⟨fun _ => mem_nodes_iff_lineage, fun _ => Node.leaf_mem_flatAll, ?_,
    directive.rootDefault_eq_false_iff, Visibility.length_slots_resolve built directive,
    Visibility.slot_root built directive, Visibility.numbers_nodup built,
    fun _ => Visibility.number_bounds built, ?_⟩
  · intro node around lineage
    have decided := Visibility.isShown_of_lineage follows lineage
    refine ⟨fun nearest found => ?_, fun unlisted => ?_, ?_⟩
    · rw [decided, Directive.decides, found, decide_eq_true_iff]
    · have none : (node :: around).find? (fun n => directive.Lists n.label.address) = none := by
        simpa using unlisted
      rw [decided, Directive.decides, none]
    · rw [decided]
      exact Visibility.slot_of_lineage built directive lineage
  · rw [TableView.ofDescriptor_ok built]
    exact map_leaf_columns schema visibility

/-- The time of a job is hidden with the group around it, its memory is shown below the hidden group,
    and its name is not shown once the memory is to be. -/
theorem nearest_listed_decides_jobs :
    let options := (({} : ViewOptions).addHidden "usage").addShown "memory"
    ∃ schema, Schema.build Sample.jobs options.formatters = .ok schema ∧
      (Visibility.resolve schema options.directive).isShown 3 = false ∧
      options.directive.rootDefault = false ∧
      (TableView.ofDescriptor Sample.jobs options).columns.map (·.leaf.key) = ["memory"] := by
  intro options
  obtain ⟨-, -, shown, selective, -, -, -, -, leaves⟩ :=
    @nearest_listed_decides Sample.jobs options _ Sample.build_jobs
  have lineage : Lineage Sample.schema.roots [.leaf Sample.timeLeaf, Sample.usageGroup] :=
    .inner (.root (List.mem_cons_of_mem _ (List.mem_singleton_self _))) List.mem_cons_self
  have hidden := (shown _ _ lineage).1 Sample.usageGroup rfl
  refine ⟨Sample.schema, Sample.build_jobs, ?_, selective.2 (.inr ⟨"memory", by decide, by decide⟩), ?_⟩
  · exact Bool.eq_false_iff.2 fun h => hidden.1 h (by decide)
  · have keys := congrArg (List.map (·.key)) leaves
    rw [List.map_map] at keys
    exact keys.trans (by decide)

end StatusReport
