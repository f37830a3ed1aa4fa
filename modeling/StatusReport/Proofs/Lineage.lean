import StatusReport.Proofs.Visibility

/-! # Inherited visibility

A node is as the nearest listed node says, going outwards from the node itself to the top-level node
around it. If none of them is listed, the default of the directive decides. Slots are filled from
the root down, so this is an induction on how far a node is from the top.

* `Lineage`: a node and the nodes around it.
* `mem_nodes_iff_lineage`: every node has them.
* `Directive.decides`: what the nearest listed node says.
* `Visibility.isShown_of_lineage`: what a visibility says that follows a directive.
* `Visibility.slot_of_lineage`: every node has a slot of its own that says so.
-/

namespace StatusReport

/-- A node and the nodes around it, the nearest first and a top-level one last. -/
inductive Lineage (roots : List Node) : List Node → Prop where
  | root {node : Node} (top : node ∈ roots) : Lineage roots [node]
  | inner {node parent : Node} {around : List Node} (above : Lineage roots (parent :: around))
      (child : node ∈ parent.children) : Lineage roots (node :: parent :: around)

/-! ## Nodes have lineages -/

section Members

variable {roots : List Node}

theorem Node.mem_flat_self (node : Node) : node ∈ node.flat := by
  cases node <;> simp [flat]

theorem Node.flat_subset_flatAll {node : Node} {nodes : List Node} (h : node ∈ nodes) :
    ∀ n ∈ node.flat, n ∈ flatAll nodes := by
  induction nodes with
  | nil => cases h
  | cons first rest ih =>
    intro n hn
    rw [flatAll, List.mem_append]
    obtain rfl | h := List.mem_cons.1 h
    · exact .inl hn
    · exact .inr (ih h n hn)

mutual

theorem Node.children_subset_flat {node parent child : Node} (h : parent ∈ node.flat)
    (below : child ∈ parent.children) : child ∈ node.flat := by
  cases node with
  | leaf label =>
    rw [Node.flat, List.mem_singleton] at h
    subst h
    cases below
  | group label name flatten children =>
    rw [Node.flat, List.mem_cons] at h ⊢
    obtain rfl | h := h
    · exact .inr (Node.flat_subset_flatAll below child child.mem_flat_self)
    · exact .inr (Node.children_subset_flatAll h below)

theorem Node.children_subset_flatAll {nodes : List Node} {parent child : Node}
    (h : parent ∈ Node.flatAll nodes) (below : child ∈ parent.children) :
    child ∈ Node.flatAll nodes := by
  cases nodes with
  | nil => cases h
  | cons node rest =>
    rw [Node.flatAll, List.mem_append] at h ⊢
    exact h.imp (Node.children_subset_flat · below) (Node.children_subset_flatAll · below)

end

mutual

theorem Node.leaf_mem_flat {node : Node} {leaf : Label} (h : leaf ∈ node.leaves) :
    Node.leaf leaf ∈ node.flat := by
  cases node with
  | leaf label =>
    rw [Node.leaves, List.mem_singleton] at h
    rw [h, Node.flat, List.mem_singleton]
  | group label name flatten children =>
    rw [Node.flat]
    exact List.mem_cons_of_mem _ (Node.leaf_mem_flatAll h)

theorem Node.leaf_mem_flatAll {nodes : List Node} {leaf : Label} (h : leaf ∈ Node.leavesOf nodes) :
    Node.leaf leaf ∈ Node.flatAll nodes := by
  cases nodes with
  | nil => cases h
  | cons node rest =>
    rw [Node.leavesOf, List.mem_append] at h
    rw [Node.flatAll, List.mem_append]
    exact h.imp Node.leaf_mem_flat Node.leaf_mem_flatAll

end

mutual

theorem Node.flat_filter_leaf (node : Node) :
    node.flat.filter (!·.isGroup) = node.leaves.map .leaf := by
  cases node with
  | leaf label => rfl
  | group label name flatten children => exact flatAll_filter_leaf children

theorem Node.flatAll_filter_leaf (nodes : List Node) :
    (flatAll nodes).filter (!·.isGroup) = (leavesOf nodes).map .leaf := by
  cases nodes with
  | nil => rfl
  | cons node rest =>
    rw [flatAll, leavesOf, List.filter_append, List.map_append, flat_filter_leaf node,
      flatAll_filter_leaf rest]

end

theorem Lineage.mem_flatAll {lineage : List Node} (h : Lineage roots lineage) :
    ∀ node ∈ lineage.head?, node ∈ Node.flatAll roots := by
  induction h with
  | @root node top =>
    rintro _ ⟨⟩
    exact Node.flat_subset_flatAll top node node.mem_flat_self
  | inner _ child ih =>
    rintro _ ⟨⟩
    exact Node.children_subset_flatAll (ih _ rfl) child

theorem Lineage.mem_flatAll_of_mem {lineage : List Node} (h : Lineage roots lineage) {node : Node}
    (member : node ∈ lineage) : node ∈ Node.flatAll roots := by
  induction h with
  | @root top h =>
    rw [List.mem_singleton.1 member]
    exact (Lineage.root h).mem_flatAll top rfl
  | @inner child _ _ above below ih =>
    obtain rfl | member := List.mem_cons.1 member
    · exact (Lineage.inner above below).mem_flatAll node rfl
    · exact ih member

mutual

theorem exists_lineage_of_flat {node : Node} {around : List Node}
    (here : Lineage roots (node :: around)) :
    ∀ n ∈ node.flat, ∃ others, Lineage roots (n :: others) := by
  cases node with
  | leaf label =>
    rw [Node.flat, List.forall_mem_singleton]
    exact ⟨around, here⟩
  | group label name flatten children =>
    rw [Node.flat, List.forall_mem_cons]
    exact ⟨⟨around, here⟩, exists_lineage_of_flatAll fun child h => ⟨_, .inner here h⟩⟩

theorem exists_lineage_of_flatAll {nodes : List Node}
    (here : ∀ node ∈ nodes, ∃ around, Lineage roots (node :: around)) :
    ∀ n ∈ Node.flatAll nodes, ∃ others, Lineage roots (n :: others) := by
  cases nodes with
  | nil => exact fun _ hn => nomatch hn
  | cons node rest =>
    obtain ⟨⟨around, first⟩, others⟩ := List.forall_mem_cons.1 here
    rw [Node.flatAll, List.forall_mem_append]
    exact ⟨exists_lineage_of_flat first, exists_lineage_of_flatAll others⟩

end

theorem mem_nodes_iff_lineage {schema : Schema} {node : Node} :
    node ∈ schema.nodes ↔ ∃ around, Lineage schema.roots (node :: around) := by
  constructor
  · intro h
    exact exists_lineage_of_flatAll (fun node h => ⟨[], .root h⟩) node h
  · rintro ⟨around, lineage⟩
    exact lineage.mem_flatAll node rfl

theorem lineage_of_leaf {schema : Schema} {leaf : Label} (h : leaf ∈ schema.leaves) :
    ∃ around, Lineage schema.roots (.leaf leaf :: around) :=
  mem_nodes_iff_lineage.1 (Node.leaf_mem_flatAll h)

end Members

/-! ## What the nearest listed node says -/

namespace Directive

def Lists (d : Directive) (address : String) : Prop :=
  address ∈ d.showPaths ∨ address ∈ d.hidePaths

instance (d : Directive) (address : String) : Decidable (d.Lists address) :=
  inferInstanceAs (Decidable (_ ∨ _))

/-- Whether a node is shown, given its lineage: as the nearest listed node says. -/
def decides (d : Directive) (lineage : List Node) : Bool :=
  match lineage.find? fun node => d.Lists node.label.address with
  | some nearest => nearest.label.address ∉ d.hidePaths
  | none => d.rootDefault

theorem decides_cons (d : Directive) (node : Node) (around : List Node) :
    d.decides (node :: around) = d.shows node.label.address (d.decides around) := by
  simp only [decides, shows, List.find?_cons, Lists]
  by_cases hidden : node.label.address ∈ d.hidePaths
  · simp [hidden]
  · by_cases shown : node.label.address ∈ d.showPaths <;> simp [hidden, shown]

theorem decides_empty (lineage : List Node) : ({} : Directive).decides lineage = true := by
  induction lineage with
  | nil => rfl
  | cons node around ih =>
    rw [decides_cons, ih]
    simp [shows]

theorem rootDefault_eq_false_iff (d : Directive) :
    d.rootDefault = false ↔ d.hideAllByDefault = true ∨ ∃ path ∈ d.showPaths, '.' ∉ path.toList := by
  simp only [rootDefault, PathSet.mem_paths]
  cases d.hideAllByDefault <;> simp [isUndotted]

end Directive

/-! ## What a visibility says -/

namespace Visibility

section Follows

variable {v : Visibility} {directive : Directive} {roots : List Node}

theorem Follows.isShown {inherited : Bool} {node : Node} (h : Follows v directive inherited node) :
    v.isShown node.label.id = directive.shows node.label.address inherited := by
  cases node with
  | leaf label => exact h
  | group label name flatten children => exact h.1

theorem Follows.below {inherited : Bool} {node : Node} (h : Follows v directive inherited node) :
    FollowsAll v directive (directive.shows node.label.address inherited) node.children := by
  cases node with
  | leaf label => trivial
  | group label name flatten children => exact h.2

theorem FollowsAll.of_mem {inherited : Bool} {node : Node} {nodes : List Node}
    (h : FollowsAll v directive inherited nodes) (member : node ∈ nodes) :
    Follows v directive inherited node := by
  induction nodes with
  | nil => cases member
  | cons first rest ih =>
    obtain rfl | member := List.mem_cons.1 member
    · exact h.1
    · exact ih h.2 member

theorem follows_of_lineage (follows : FollowsAll v directive directive.rootDefault roots)
    {node : Node} {around : List Node} (lineage : Lineage roots (node :: around)) :
    Follows v directive (directive.decides around) node := by
  generalize whole : node :: around = nodes at lineage
  induction lineage generalizing node around with
  | root top =>
    cases whole
    exact follows.of_mem top
  | inner _ child ih =>
    cases whole
    -- What is around the parent decides on it, and so on its children.
    rw [Directive.decides_cons]
    exact (ih rfl).below.of_mem child

theorem isShown_of_lineage (follows : FollowsAll v directive directive.rootDefault roots)
    {node : Node} {around : List Node} (lineage : Lineage roots (node :: around)) :
    v.isShown node.label.id = directive.decides (node :: around) := by
  rw [Directive.decides_cons]
  exact (follows_of_lineage follows lineage).isShown

end Follows

section Slots

variable {descriptor : Descriptor} {formatters : Registry} {schema : Schema}

theorem length_slots_resolve (built : Schema.build descriptor formatters = .ok schema)
    (directive : Directive) : (resolve schema directive).slots.length = schema.size := by
  have tree := (Schema.build_eq_ok_iff.1 built).2
  simp [resolve, length_fillNodes tree]

theorem slot_root (built : Schema.build descriptor formatters = .ok schema)
    (directive : Directive) :
    (resolve schema directive).slots[0]? = some directive.rootDefault := by
  have tree := (Schema.build_eq_ok_iff.1 built).2
  have room := tree.le
  rw [resolve, fillNodes_outside tree _ _ _ (.inl Nat.one_pos), List.getElem?_set_self (by simp; omega)]

theorem number_bounds (built : Schema.build descriptor formatters = .ok schema) {node : Node}
    (h : node ∈ schema.nodes) : 0 < node.label.id ∧ node.label.id < schema.size :=
  (Schema.build_eq_ok_iff.1 built).2.number_mem h

theorem numbers_nodup (built : Schema.build descriptor formatters = .ok schema) :
    (schema.nodes.map (·.label.id)).Nodup := by
  rw [Schema.nodes, (Schema.build_eq_ok_iff.1 built).2.numbers]
  exact List.nodup_range'

/-- The slot of a node says what the nearest listed node does. -/
theorem slot_of_lineage (built : Schema.build descriptor formatters = .ok schema)
    (directive : Directive) {node : Node} {around : List Node}
    (lineage : Lineage schema.roots (node :: around)) :
    (resolve schema directive).slots[node.label.id]? = some (directive.decides (node :: around)) := by
  have bound := (number_bounds built (mem_nodes_iff_lineage.2 ⟨around, lineage⟩)).2
  rw [← length_slots_resolve built directive] at bound
  have shown := isShown_of_lineage (followsAll_resolve built directive) lineage
  rw [isShown, List.getD_eq_getElem?_getD, List.getElem?_eq_getElem bound] at shown
  rw [List.getElem?_eq_getElem bound, ← shown]
  rfl

/-- A directive that lists nothing hides nothing. -/
theorem isShown_of_empty (built : Schema.build descriptor formatters = .ok schema) {leaf : Label}
    (member : leaf ∈ schema.leaves) : (resolve schema {}).isShown leaf.id = true := by
  obtain ⟨around, lineage⟩ := lineage_of_leaf member
  exact (isShown_of_lineage (followsAll_resolve built {}) lineage).trans (Directive.decides_empty _)

end Slots

end Visibility

end StatusReport
