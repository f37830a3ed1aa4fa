import StatusReport.Proofs.Lineage
import StatusReport.Proofs.Report.Script
import StatusReport.Proofs.Schema.Walk

/-! # Addresses are keys

No group adds to the addresses of what is in it: fields in boxed groups are addressed afresh, and
flatten groups pass on the path around them, which is never but empty. So the address of a node is
its own key, while its selector names all groups around it. Of the paths that a directive lists,
only those count that are the key of some node, and those without a dot to show, which make reports
selective.

* `Node.MadeOf.address`: the address of a node.
* `selector_of_lineage`: the selector of a node.
* `Directive.keyed`: a directive without the paths that name no node.
* `Visibility.resolve_keyed`: such paths hide and show nothing.
* `addresses_are_keys`: so no report depends on them.
-/

namespace StatusReport

open Report (renderAll)

/-! ## Addresses and selectors -/

theorem Node.MadeOf.address {node : Node} {visit : Visit} (made : node.MadeOf visit) :
    node.label.address = visit.field.spec.key := by
  rw [made.label, Schema.address_labelOf]

theorem Node.MadeOf.key {node : Node} {visit : Visit} (made : node.MadeOf visit) :
    node.label.key = visit.field.spec.key := by
  rw [made.label]
  rfl

theorem Node.MadeOf.selector {node : Node} {visit : Visit} (made : node.MadeOf visit) :
    node.label.selector = visit.selector := by
  rw [made.label]
  rfl

section Built

variable {descriptor : Descriptor} {formatters : Registry} {schema : Schema}

theorem map_nodes_eq_map_visits {α : Type u} {f : Node → α} {g : Visit → α}
    (built : Schema.build descriptor formatters = .ok schema)
    (same : ∀ node visit, node.MadeOf visit → f node = g visit) :
    schema.nodes.map f = descriptor.visits.map g := by
  have made := (Schema.madeOf_visits built).imp same
  generalize schema.nodes = nodes, descriptor.visits = visits at made
  induction made with
  | nil => rfl
  | cons first _ ih => rw [List.map_cons, List.map_cons, first, ih]

theorem address_eq_key (built : Schema.build descriptor formatters = .ok schema) {node : Node}
    (member : node ∈ schema.nodes) : node.label.address = node.label.key := by
  obtain ⟨visit, -, made⟩ := (Schema.build_eq_ok_iff.1 built).2.exists_visit member
  exact made.address.trans made.key.symm

end Built

section Selectors

open Schema (Built)

variable {formatters : Registry} {path selector : List String} {fields : List Field}
  {next after : Nat} {nodes : List Node}

theorem Schema.Built.selector_of_mem
    (built : Built formatters path selector fields next nodes after) {node : Node}
    (member : node ∈ nodes) : node.label.selector = selector ++ [node.label.key] := by
  induction built with
  | nil => cases member
  | leaf _ _ _ ih =>
    obtain rfl | member := List.mem_cons.1 member
    · rfl
    · exact ih member
  | group _ _ _ _ _ ih =>
    obtain rfl | member := List.mem_cons.1 member
    · rfl
    · exact ih member

theorem Schema.Built.selector_of_child
    (built : Built formatters path selector fields next nodes after) {parent child : Node}
    (member : parent ∈ Node.flatAll nodes) (below : child ∈ parent.children) :
    child.label.selector = parent.label.selector ++ [child.label.key] := by
  induction built with
  | nil => cases member
  | leaf _ _ _ ih =>
    rw [Node.flatAll, Node.flat, List.singleton_append, List.mem_cons] at member
    obtain rfl | member := member
    · cases below
    · exact ih member
  | group _ _ inside _ ihInside ihOthers =>
    rw [Node.flatAll, Node.flat, List.cons_append, List.mem_cons, List.mem_append] at member
    obtain rfl | member | member := member
    · exact inside.selector_of_mem below
    · exact ihInside member
    · exact ihOthers member

/-- The selector of a node is the keys of the groups around it, and its own. -/
theorem selector_of_lineage {descriptor : Descriptor} {schema : Schema}
    (built : Schema.build descriptor formatters = .ok schema) {lineage : List Node}
    (h : Lineage schema.roots lineage) :
    ∀ node ∈ lineage.head?, node.label.selector = (lineage.map (·.label.key)).reverse := by
  have tree := (Schema.build_eq_ok_iff.1 built).2
  induction h with
  | root top =>
    rintro _ ⟨⟩
    exact tree.selector_of_mem top
  | inner above child ih =>
    rintro _ ⟨⟩
    rw [tree.selector_of_child (above.mem_flatAll _ rfl) child, ih _ rfl]
    simp only [List.map_cons, List.reverse_cons]

end Selectors

/-! ## Paths that name no node -/

def PathSet.filter (s : PathSet) (keep : String → Bool) : PathSet :=
  ⟨s.paths.filter keep, s.sorted.filter keep⟩

theorem PathSet.mem_filter {path : String} {s : PathSet} {keep : String → Bool} :
    path ∈ s.filter keep ↔ path ∈ s ∧ keep path = true := List.mem_filter

namespace Directive

/-- A directive without the paths to hide that are no key, and without those to show that are no
    key and have a dot. -/
def keyed (d : Directive) (keys : List String) : Directive :=
  { d with
    hidePaths := d.hidePaths.filter fun path => path ∈ keys
    showPaths := d.showPaths.filter fun path => isUndotted path || path ∈ keys }

theorem rootDefault_keyed (d : Directive) (keys : List String) :
    (d.keyed keys).rootDefault = d.rootDefault := by
  have undotted : (d.showPaths.paths.filter fun path => isUndotted path || path ∈ keys).any isUndotted =
      d.showPaths.paths.any isUndotted := by
    rw [List.any_filter]
    congr 1
    funext path
    cases isUndotted path <;> simp
  exact congrArg (!d.hideAllByDefault && !·) undotted

theorem shows_keyed (d : Directive) {keys : List String} {address : String} (key : address ∈ keys)
    (inherited : Bool) : (d.keyed keys).shows address inherited = d.shows address inherited := by
  simp only [shows, keyed, PathSet.mem_filter, key, decide_true, Bool.or_true, and_true]

end Directive

namespace Visibility

section Congruence

variable {d e : Directive}

mutual

theorem fillNode_congr {node : Node} (inherited : Bool) (slots : List Bool)
    (same : ∀ n ∈ node.flat, ∀ inherited,
      d.shows n.label.address inherited = e.shows n.label.address inherited) :
    fillNode d inherited node slots = fillNode e inherited node slots := by
  cases node with
  | leaf label =>
    rw [Node.flat, List.forall_mem_singleton] at same
    rw [fillNode, fillNode]
    exact congrArg (slots.set label.id) (same inherited)
  | group label name flatten children =>
    rw [Node.flat, List.forall_mem_cons] at same
    have here : d.shows label.address inherited = e.shows label.address inherited :=
      same.1 inherited
    rw [fillNode, fillNode]
    simp only [here]
    exact fillNodes_congr _ _ same.2

theorem fillNodes_congr {nodes : List Node} (inherited : Bool) (slots : List Bool)
    (same : ∀ n ∈ Node.flatAll nodes, ∀ inherited,
      d.shows n.label.address inherited = e.shows n.label.address inherited) :
    fillNodes d inherited nodes slots = fillNodes e inherited nodes slots := by
  cases nodes with
  | nil => rfl
  | cons node rest =>
    rw [Node.flatAll, List.forall_mem_append] at same
    rw [fillNodes, fillNodes, fillNode_congr inherited slots same.1,
      fillNodes_congr inherited _ same.2]

end

end Congruence

/-- Paths that name no node hide and show nothing. -/
theorem resolve_keyed {descriptor : Descriptor} {formatters : Registry} {schema : Schema}
    (built : Schema.build descriptor formatters = .ok schema) (directive : Directive) :
    resolve schema (directive.keyed (schema.nodes.map (·.label.key))) =
      resolve schema directive := by
  rw [resolve, resolve, Directive.rootDefault_keyed]
  refine congrArg Visibility.mk (fillNodes_congr _ _ fun node member inherited => ?_)
  refine directive.shows_keyed ?_ inherited
  rw [address_eq_key built member]
  exact List.mem_map_of_mem member

end Visibility

/-! ## Reports -/

/-- The address of a node is the key of its field, and no group around it adds to it; the selector of
    a node is the keys of the groups around it and its own. So a directive shows and hides the same,
    and every run of tables and of listings is the same, without the paths to hide that are no key
    of a node and without the paths to show that have a dot and are no key of a node. -/
theorem addresses_are_keys {σ : Type u} [Sink σ] {descriptor : Descriptor} {options : ViewOptions}
    {schema : Schema} (built : Schema.build descriptor options.formatters = .ok schema) (s : σ) :
    let keyed : ViewOptions := { options with
      directive := options.directive.keyed (schema.nodes.map (·.label.key)) }
    schema.nodes.map (fun node => (node.label.address, node.label.selector)) =
      descriptor.visits.map (fun visit => (visit.field.spec.key, visit.selector)) ∧
    (∀ node ∈ schema.nodes, ∃ around, Lineage schema.roots (node :: around)) ∧
    (∀ node around, Lineage schema.roots (node :: around) →
      node.label.address = node.label.key ∧
      node.label.selector = ((node :: around).map (·.label.key)).reverse) ∧
    Visibility.resolve schema keyed.directive = Visibility.resolve schema options.directive ∧
    (∀ batches, renderAll (TableView.ofDescriptor descriptor keyed) s batches =
      renderAll (TableView.ofDescriptor descriptor options) s batches) ∧
    (∀ records, renderAll (DetailView.ofDescriptor descriptor keyed) s records =
      renderAll (DetailView.ofDescriptor descriptor options) s records) := by
  intro keyed
  have shown := Visibility.resolve_keyed built options.directive
  refine ⟨map_nodes_eq_map_visits built fun node visit made => ?_,
    fun node member => mem_nodes_iff_lineage.1 member, fun node around lineage => ⟨?_, ?_⟩, shown,
    fun batches => ?_, fun records => ?_⟩
  · rw [made.address, made.selector]
  · exact address_eq_key built (mem_nodes_iff_lineage.2 ⟨around, lineage⟩)
  · exact selector_of_lineage built lineage node rfl
  · rw [TableView.ofDescriptor_ok built, @TableView.ofDescriptor_ok descriptor keyed schema built, shown]
  · rw [DetailView.ofDescriptor_ok built, @DetailView.ofDescriptor_ok descriptor keyed schema built, shown]

/-- Of three paths only the key of the memory of jobs counts, and not where the memory is. -/
theorem addresses_are_keys_jobs :
    let options := ((({} : ViewOptions).addHidden "memory").addHidden "usage.time").addShown
      "usage.memory"
    let keyed := ({} : ViewOptions).addHidden "memory"
    options.directive.keyed (Sample.schema.nodes.map (·.label.key)) = keyed.directive ∧
      Sample.memoryLeaf.address = "memory" ∧ Sample.memoryLeaf.selector = ["usage", "memory"] ∧
      (renderAll (TableView.ofDescriptor Sample.jobs options) ({} : Transcript)
        [[Sample.job "a" (.int 1536)]]).2.received = "\tUsage\nNAME\tTIME\n----\t----\na\t\n" := by
  intro options keyed
  have shorter : options.directive.keyed (Sample.schema.nodes.map (·.label.key)) = keyed.directive := by
    decide
  obtain ⟨-, -, keys, -, tables, -⟩ :=
    @addresses_are_keys _ _ Sample.jobs options _ Sample.build_jobs ({} : Transcript)
  have lineage : Lineage Sample.schema.roots [.leaf Sample.memoryLeaf, Sample.usageGroup] :=
    .inner (.root (List.mem_cons_of_mem _ (List.mem_singleton_self _)))
      (List.mem_cons_of_mem _ (List.mem_singleton_self _))
  obtain ⟨address, selector⟩ := keys _ _ lineage
  refine ⟨shorter, address, selector, ?_⟩
  rw [← tables]
  rw [shorter]
  decide +kernel

end StatusReport
