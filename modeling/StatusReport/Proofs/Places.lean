import Mathlib.Data.List.Nodup
import StatusReport.Proofs.Lineage

/-! # The places of a tree in order

A place is a node together with the nodes around it. Depth first, a node comes before all that is
below it, and nothing else comes between: what is below a node is one stretch of the places. Walks
over a schema that make something of each node on the way are read off this list.

* `Schema.places`: the places of a schema, depth first.
* `Node.placesAll_split`: the places below a place are those that follow it.
* `Schema.mem_places_iff`: they are the nodes with their lineages.
* `Schema.places_split`: what is below a node, and only that, has it around.
* `Sample.machines`: groups inside groups, for fixed runs.
-/

namespace StatusReport

/-- A node and the nodes around it, the nearest first. -/
structure Place where
  node : Node
  around : List Node

namespace Place

def lineage (p : Place) : List Node := p.node :: p.around

/-- A place is below another one: the node there is around it. -/
def Below (p above : Place) : Prop := above.node ∈ p.around

end Place

namespace Node

mutual

/-- The places of a node and all below it, depth first. -/
def places (around : List Node) : Node → List Place
  | .leaf label => [⟨.leaf label, around⟩]
  | .group label name flatten children =>
    ⟨.group label name flatten children, around⟩ ::
      placesAll (.group label name flatten children :: around) children

def placesAll (around : List Node) : List Node → List Place
  | [] => []
  | node :: rest => places around node ++ placesAll around rest

end

end Node

def Place.below (p : Place) : List Place := Node.placesAll p.lineage p.node.children

def Schema.places (s : Schema) : List Place := Node.placesAll [] s.roots

/-! ## One stretch -/

namespace Node

theorem places_eq (around : List Node) (node : Node) :
    node.places around = ⟨node, around⟩ :: Place.below ⟨node, around⟩ := by
  cases node <;> rfl

mutual

theorem map_node_places (around : List Node) (node : Node) :
    (node.places around).map (·.node) = node.flat := by
  cases node with
  | leaf label => rfl
  | group label name flatten children =>
    rw [places, flat, List.map_cons, map_node_placesAll]

theorem map_node_placesAll (around : List Node) (nodes : List Node) :
    (placesAll around nodes).map (·.node) = flatAll nodes := by
  cases nodes with
  | nil => rfl
  | cons node rest =>
    rw [placesAll, flatAll, List.map_append, map_node_places, map_node_placesAll]

end

mutual

theorem places_split {around : List Node} {node : Node} {p : Place} (member : p ∈ node.places around) :
    ∃ before after, node.places around = before ++ p :: (p.below ++ after) := by
  rw [places_eq] at member ⊢
  obtain rfl | member := List.mem_cons.1 member
  · exact ⟨[], [], by simp⟩
  · cases node with
    | leaf label => cases member
    | group label name flatten children =>
      obtain ⟨before, after, split⟩ := placesAll_split member
      exact ⟨_ :: before, after, congrArg (_ :: ·) split⟩

/-- What is below a place follows it, and nothing comes between. -/
theorem placesAll_split {around nodes : List Node} {p : Place} (member : p ∈ placesAll around nodes) :
    ∃ before after, placesAll around nodes = before ++ p :: (p.below ++ after) := by
  cases nodes with
  | nil => cases member
  | cons node rest =>
    rw [placesAll] at member ⊢
    obtain member | member := List.mem_append.1 member
    · obtain ⟨before, after, split⟩ := places_split member
      exact ⟨before, after ++ placesAll around rest, by simp [split]⟩
    · obtain ⟨before, after, split⟩ := placesAll_split member
      exact ⟨node.places around ++ before, after, by simp [split]⟩

end

/-! ## Members -/

theorem mem_placesAll_of_mem (around : List Node) {node : Node} {nodes : List Node}
    (member : node ∈ nodes) : ⟨node, around⟩ ∈ placesAll around nodes := by
  induction nodes with
  | nil => cases member
  | cons first rest ih =>
    rw [placesAll, List.mem_append]
    obtain rfl | member := List.mem_cons.1 member
    · rw [places_eq]
      exact .inl List.mem_cons_self
    · exact .inr (ih member)

theorem child_mem_placesAll {around nodes : List Node} {p : Place} {child : Node}
    (member : p ∈ placesAll around nodes) (below : child ∈ p.node.children) :
    ⟨child, p.lineage⟩ ∈ placesAll around nodes := by
  obtain ⟨before, after, split⟩ := placesAll_split member
  have inside : ⟨child, p.lineage⟩ ∈ p.below := mem_placesAll_of_mem p.lineage below
  rw [split]
  exact List.mem_append_right _ (List.mem_cons_of_mem _ (List.mem_append_left _ inside))

mutual

theorem suffix_of_mem_places {around : List Node} {node : Node} {p : Place}
    (member : p ∈ node.places around) : around <:+ p.around := by
  rw [places_eq] at member
  obtain rfl | member := List.mem_cons.1 member
  · exact List.suffix_rfl
  · cases node with
    | leaf label => cases member
    | group label name flatten children =>
      exact (List.suffix_cons _ _).trans (suffix_of_mem_placesAll member)

theorem suffix_of_mem_placesAll {around nodes : List Node} {p : Place}
    (member : p ∈ placesAll around nodes) : around <:+ p.around := by
  cases nodes with
  | nil => cases member
  | cons node rest =>
    rw [placesAll, List.mem_append] at member
    exact member.elim suffix_of_mem_places suffix_of_mem_placesAll

end

mutual

theorem lineage_of_mem_places {roots around : List Node} {node : Node}
    (here : Lineage roots (node :: around)) :
    ∀ p ∈ node.places around, Lineage roots p.lineage := by
  cases node with
  | leaf label =>
    rw [places, List.forall_mem_singleton]
    exact here
  | group label name flatten children =>
    rw [places, List.forall_mem_cons]
    exact ⟨here, lineage_of_mem_placesAll fun child below => .inner here below⟩

theorem lineage_of_mem_placesAll {roots around nodes : List Node}
    (here : ∀ node ∈ nodes, Lineage roots (node :: around)) :
    ∀ p ∈ placesAll around nodes, Lineage roots p.lineage := by
  cases nodes with
  | nil => exact nofun
  | cons node rest =>
    obtain ⟨first, others⟩ := List.forall_mem_cons.1 here
    rw [placesAll, List.forall_mem_append]
    exact ⟨lineage_of_mem_places first, lineage_of_mem_placesAll others⟩

end

end Node

theorem Lineage.of_suffix {roots lineage : List Node} (h : Lineage roots lineage) {node : Node}
    {around : List Node} (suffix : node :: around <:+ lineage) : Lineage roots (node :: around) := by
  induction h with
  | root top =>
    obtain same | none := List.suffix_cons_iff.1 suffix
    · rw [same]
      exact .root top
    · cases List.suffix_nil.1 none
  | inner above child ih =>
    obtain same | suffix := List.suffix_cons_iff.1 suffix
    · rw [same]
      exact .inner above child
    · exact ih suffix

namespace Schema

/-- The places of a schema are its nodes with the nodes around them. -/
theorem mem_places_iff {schema : Schema} {p : Place} :
    p ∈ schema.places ↔ Lineage schema.roots p.lineage := by
  constructor
  · exact Node.lineage_of_mem_placesAll (fun _ top => .root top) p
  · intro h
    obtain ⟨node, around⟩ := p
    change Lineage schema.roots (node :: around) at h
    generalize whole : node :: around = lineage at h
    induction h generalizing node around with
    | root top =>
      cases whole
      exact Node.mem_placesAll_of_mem [] top
    | inner _ child ih =>
      cases whole
      exact Node.child_mem_placesAll (ih _ _ rfl) child

theorem place_of_around {schema : Schema} {p : Place} (here : p ∈ schema.places) {node : Node}
    {nearer further : List Node} (split : p.around = nearer ++ node :: further) :
    ⟨node, further⟩ ∈ schema.places := by
  have suffix : node :: further <:+ p.lineage := ⟨p.node :: nearer, by rw [Place.lineage, split]; rfl⟩
  exact mem_places_iff.2 ((mem_places_iff.1 here).of_suffix suffix)

section Built

variable {descriptor : Descriptor} {formatters : Registry} {schema : Schema}
  (built : build descriptor formatters = .ok schema)
include built

theorem places_nodup : (schema.places.map (·.node.label.id)).Nodup := by
  have nodes : schema.places.map (·.node) = schema.nodes := Node.map_node_placesAll [] schema.roots
  have ids := Visibility.numbers_nodup built
  rwa [← nodes, List.map_map] at ids

theorem place_unique {p q : Place} (hp : p ∈ schema.places) (hq : q ∈ schema.places)
    (same : p.node = q.node) : p = q :=
  List.inj_on_of_nodup_map (places_nodup built) hp hq (congrArg (·.label.id) same)

theorem mem_below_iff {p q : Place} (hp : p ∈ schema.places) (hq : q ∈ schema.places) :
    q ∈ p.below ↔ q.Below p := by
  constructor
  · intro member
    exact (Node.suffix_of_mem_placesAll member).subset List.mem_cons_self
  · obtain ⟨node, around⟩ := q
    have h := mem_places_iff.1 hq
    change Lineage schema.roots (node :: around) at h
    clear hq
    generalize whole : node :: around = lineage at h
    intro inside
    induction h generalizing node around with
    | root top =>
      cases whole
      cases inside
    | @inner _ parent around above child ih =>
      cases whole
      -- The parent is the node itself or below it.
      obtain same | inside := List.mem_cons.1 inside
      · obtain rfl := place_unique built hp (q := ⟨parent, around⟩) (mem_places_iff.2 above) same
        exact Node.mem_placesAll_of_mem _ child
      · exact Node.child_mem_placesAll (ih parent around rfl inside) child

/-- What is below a node is the stretch of the places right behind it. -/
theorem places_split {p : Place} (here : p ∈ schema.places) :
    ∃ before after, schema.places = before ++ p :: (p.below ++ after) ∧
      (∀ q ∈ p.below, q.Below p) ∧ ∀ q ∈ before ++ after, ¬ q.Below p := by
  obtain ⟨before, after, split⟩ := Node.placesAll_split here
  change schema.places = _ at split
  have inside : ∀ q ∈ p.below, q ∈ schema.places := by
    rw [split]
    exact fun q member => List.mem_append_right _ (List.mem_cons_of_mem _ (List.mem_append_left _ member))
  refine ⟨before, after, split, fun q member => (mem_below_iff built here (inside q member)).1 member,
    fun q outside below => ?_⟩
  -- A place both inside and outside of the stretch would be in the list twice.
  have distinct := List.Nodup.of_map _ (places_nodup built)
  have member : q ∈ schema.places := by
    rw [split]
    simp only [List.mem_append, List.mem_cons] at outside ⊢
    tauto
  have stretch := (mem_below_iff built here member).2 below
  rw [split, List.nodup_append, List.nodup_cons, List.nodup_append] at distinct
  obtain ⟨-, ⟨-, -, -, apart⟩, first⟩ := distinct
  obtain early | late := List.mem_append.1 outside
  · exact first q early q (List.mem_cons_of_mem _ (List.mem_append_left _ stretch)) rfl
  · exact apart q stretch q late rfl

end Built

end Schema

/-! ## A small tree -/

namespace Sample

/-- Machines: a name, and their usage in a boxed group. Inside are limits in a boxed group of their
    own, with a flatten group between the two. -/
def machines : Descriptor where
  name := "Machine"
  fields := [
    .scalar { key := "name" },
    .record { key := "usage", group := some ⟨"Usage", false⟩ } "Usage" [
      .scalar { key := "cpu" },
      .record { key := "caps", group := some ⟨"Caps", true⟩ } "Caps" [
        .record { key := "limits", group := some ⟨"Limits", false⟩ } "Limits" [
          .scalar { key := "max" }]],
      .scalar { key := "mem" }]]

def maxLeaf : Label := Schema.labelOf [] ["usage", "caps", "limits"] { key := "max" } 6

def limitsGroup : Node :=
  .group (Schema.labelOf [] ["usage", "caps"] { key := "limits", group := some ⟨"Limits", false⟩ } 5)
    "Limits" false [.leaf maxLeaf]

def capsGroup : Node :=
  .group (Schema.labelOf [] ["usage"] { key := "caps", group := some ⟨"Caps", true⟩ } 4) "Caps" true
    [limitsGroup]

def loadGroup : Node :=
  .group (Schema.labelOf [] [] { key := "usage", group := some ⟨"Usage", false⟩ } 2) "Usage" false
    [.leaf (Schema.labelOf [] ["usage"] { key := "cpu" } 3), capsGroup,
      .leaf (Schema.labelOf [] ["usage"] { key := "mem" } 7)]

def machineSchema : Schema :=
  ⟨"Machine", [.leaf (Schema.labelOf [] [] { key := "name" } 1), loadGroup], 8⟩

theorem build_machines : Schema.build machines {} = .ok machineSchema := rfl

theorem loadGroup_mem_places : ⟨loadGroup, []⟩ ∈ machineSchema.places :=
  Node.mem_placesAll_of_mem [] (List.mem_cons_of_mem _ List.mem_cons_self)

def machine : Record where
  field key :=
    if key = "name" then .str "a"
    else .record (fun key =>
      if key = "cpu" then .str "1"
      else if key = "mem" then .str "3"
      else .record (fun _ => .record (fun _ => .str "2") "") "") ""

end Sample

end StatusReport
