import StatusReport.Proofs.Lineage
import StatusReport.Proofs.Schema.Walk

/-! # Trees at other places

The fields of a record type make the same tree wherever they are declared: only the numbers of the
nodes are shifted, and their selectors begin with the keys of the groups around. Addresses stay, so
a directive that is followed at both places shows the same leaves.

* `Node.moved`, `Node.movedAll`: a tree at another place.
* `Schema.Built.moved`: building the same fields elsewhere.
* `Schema.Built.append`, `Schema.Built.of_append`: building fields one part after the other.
* `Field.grouped`, `Schema.Built.grouped`: fields inside a group.
* `Visibility.FollowsAll.moved`: what is shown elsewhere.
-/

namespace StatusReport

/-! ## Moved nodes -/

/-- What is known of a node, with a number so much higher and inside these groups. -/
def Label.moved (around : List String) (shift : Nat) (label : Label) : Label :=
  { label with id := label.id + shift, selector := around ++ label.selector }

@[simp] theorem Label.id_moved (around : List String) (shift : Nat) (label : Label) :
    (label.moved around shift).id = label.id + shift := rfl

@[simp] theorem Label.title_moved (around : List String) (shift : Nat) (label : Label) :
    (label.moved around shift).title = label.title := rfl

@[simp] theorem Label.formatter_moved (around : List String) (shift : Nat) (label : Label) :
    (label.moved around shift).formatter = label.formatter := rfl

@[simp] theorem Label.selector_moved (around : List String) (shift : Nat) (label : Label) :
    (label.moved around shift).selector = around ++ label.selector := rfl

theorem Label.moved_nil_zero (label : Label) : label.moved [] 0 = label := rfl

theorem Schema.labelOf_moved (path around selector : List String) (spec : FieldSpec)
    (next shift : Nat) :
    labelOf path (around ++ selector) spec (next + shift) =
      (labelOf path selector spec next).moved around shift := by
  simp [labelOf, Label.moved]

namespace Node

mutual

def moved (around : List String) (shift : Nat) : Node → Node
  | .leaf label => .leaf (label.moved around shift)
  | .group label name flatten children =>
    .group (label.moved around shift) name flatten (movedAll around shift children)

def movedAll (around : List String) (shift : Nat) : List Node → List Node
  | [] => []
  | node :: rest => moved around shift node :: movedAll around shift rest

end

mutual

theorem moved_nil_zero (node : Node) : node.moved [] 0 = node := by
  cases node with
  | leaf label => rfl
  | group label name flatten children => rw [moved, movedAll_nil_zero, Label.moved_nil_zero]

theorem movedAll_nil_zero (nodes : List Node) : movedAll [] 0 nodes = nodes := by
  cases nodes with
  | nil => rfl
  | cons node rest => rw [movedAll, moved_nil_zero, movedAll_nil_zero]

end

mutual

theorem leaves_moved (around : List String) (shift : Nat) (node : Node) :
    (node.moved around shift).leaves = node.leaves.map (.moved around shift) := by
  cases node with
  | leaf label => rfl
  | group label name flatten children => exact leavesOf_movedAll around shift children

theorem leavesOf_movedAll (around : List String) (shift : Nat) (nodes : List Node) :
    leavesOf (movedAll around shift nodes) = (leavesOf nodes).map (.moved around shift) := by
  cases nodes with
  | nil => rfl
  | cons node rest =>
    rw [movedAll, leavesOf, leavesOf, List.map_append, leaves_moved, leavesOf_movedAll]

end

end Node

/-! ## Building elsewhere -/

namespace Schema.Built

variable {formatters : Registry} {path selector : List String} {fields more : List Field}
  {next middle after : Nat} {nodes others : List Node}

theorem moved (built : Built formatters path selector fields next nodes after)
    (around : List String) (shift : Nat) :
    Built formatters path (around ++ selector) fields (next + shift)
      (Node.movedAll around shift nodes) (after + shift) := by
  -- The selector matters for what an error says, not for whether there is one.
  have checks {selector : List String} {spec : FieldSpec}
      (checked : checkFormat formatters selector spec = .ok ()) :
      checkFormat formatters (around ++ selector) spec = .ok () :=
    checkFormat_eq_ok_iff.2 (checkFormat_eq_ok_iff.1 checked)
  induction built with
  | nil => exact .nil
  | leaf checked single _ ih =>
    rw [Node.movedAll, Node.moved, ← labelOf_moved]
    refine .leaf (checks checked) single ?_
    rw [Nat.add_right_comm]
    exact ih
  | group checked grouped _ _ inside ih =>
    rw [Node.movedAll, Node.moved, ← labelOf_moved]
    refine .group (checks checked) grouped ?_ ih
    rw [Nat.add_right_comm, List.append_assoc]
    exact inside

theorem append (built : Built formatters path selector fields next nodes middle)
    (built' : Built formatters path selector more middle others after) :
    Built formatters path selector (fields ++ more) next (nodes ++ others) after := by
  induction built with
  | nil => exact built'
  | leaf checked single _ ih => exact .leaf checked single (ih built')
  | group checked grouped inside _ _ ih => exact .group checked grouped inside (ih built')

theorem of_append (built : Built formatters path selector (fields ++ more) next nodes after) :
    ∃ first middle others, nodes = first ++ others ∧
      Built formatters path selector fields next first middle ∧
      Built formatters path selector more middle others after := by
  induction fields generalizing next nodes with
  | nil => exact ⟨[], next, nodes, rfl, .nil, built⟩
  | cons field rest ih =>
    rw [List.cons_append] at built
    cases built with
    | leaf checked single others =>
      obtain ⟨first, middle, last, rfl, front, back⟩ := ih others
      exact ⟨_, middle, last, rfl, .leaf checked single front, back⟩
    | group checked grouped inside others =>
      obtain ⟨first, middle, last, rfl, front, back⟩ := ih others
      exact ⟨_, middle, last, rfl, .group checked grouped inside front, back⟩

end Schema.Built

/-! ## Inside a group -/

def Field.grouped (key : String) (group : GroupSpec) (title defaultText : Option String)
    (typeName : String) (fields : List Field) : Field :=
  .record { key := key, title := title, defaultText := defaultText, group := some group } typeName
    fields

section Grouped

variable {formatters : Registry} {fields others : List Field} {next middle after : Nat}
  {nodes more : List Node} {key typeName : String} {group : GroupSpec}
  {title defaultText : Option String}

/-- Fields inside a group, and those after it, are moved by the group. -/
theorem Schema.Built.grouped (inside : Built formatters [] [] fields next nodes middle)
    (behind : Built formatters [] [] others middle more after) :
    Built formatters [] [] (.grouped key group title defaultText typeName fields :: others) next
      (.group (labelOf [] [] (Field.grouped key group title defaultText typeName fields).spec next)
        group.name group.flatten (Node.movedAll [key] 1 nodes) :: Node.movedAll [] 1 more)
      (after + 1) := by
  refine .group rfl rfl ?_ (behind.moved [] 1)
  -- The path is empty at the top level, so a flatten group passes on what a boxed one starts with.
  rw [ite_self]
  exact inside.moved [key] 1

theorem Field.visits_grouped (around : List String) :
    visits around (.grouped key group title defaultText typeName fields) =
      ⟨around, .grouped key group title defaultText typeName fields⟩ ::
        visitsAll (around ++ [key]) fields :=
  visits_of_group around rfl

theorem Field.resolved_grouped (around : List String) :
    Visit.Resolved formatters
      ⟨around, .grouped key group title defaultText typeName fields⟩ := fun _ named => nomatch named

end Grouped

/-! ## What is shown elsewhere -/

theorem Directive.shows_of_not_lists {d : Directive} {address : String} (h : ¬ d.Lists address)
    (inherited : Bool) : d.shows address inherited = inherited := by
  rw [Lists, not_or] at h
  rw [shows, if_neg h.2, if_neg h.1]

namespace Visibility

variable {v w : Visibility} {directive : Directive}

theorem followsAll_append {inherited : Bool} {a b : List Node} :
    FollowsAll v directive inherited (a ++ b) ↔
      FollowsAll v directive inherited a ∧ FollowsAll v directive inherited b := by
  induction a with
  | nil => exact (iff_of_eq (true_and _)).symm
  | cons node rest ih => rw [List.cons_append, FollowsAll, FollowsAll, ih, and_assoc]

def MovedLeaves (v w : Visibility) (shift : Nat) (leaves : List Label) : Prop :=
  ∀ leaf ∈ leaves, w.isShown (leaf.id + shift) = v.isShown leaf.id

mutual

theorem Follows.moved {around : List String} {shift : Nat} {inherited : Bool} {node : Node}
    (here : Follows v directive inherited node)
    (there : Follows w directive inherited (node.moved around shift)) :
    MovedLeaves v w shift node.leaves := by
  cases node with
  | leaf label =>
    rw [MovedLeaves, Node.leaves, List.forall_mem_singleton]
    exact there.trans here.symm
  | group label name flatten children => exact FollowsAll.moved here.2 there.2

/-- The address of a node is the same elsewhere, so a directive decides the same. -/
theorem FollowsAll.moved {around : List String} {shift : Nat} {inherited : Bool}
    {nodes : List Node} (here : FollowsAll v directive inherited nodes)
    (there : FollowsAll w directive inherited (Node.movedAll around shift nodes)) :
    MovedLeaves v w shift (Node.leavesOf nodes) := by
  cases nodes with
  | nil => exact fun _ hl => nomatch hl
  | cons node rest =>
    rw [MovedLeaves, Node.leavesOf, List.forall_mem_append]
    exact ⟨Follows.moved here.1 there.1, FollowsAll.moved here.2 there.2⟩

end

theorem Follows.of_unlisted {inherited : Bool} {spec : FieldSpec} {id : Nat} {name : String}
    {flatten : Bool} {children : List Node} (unlisted : ¬ directive.Lists spec.key)
    (h : Follows v directive inherited
      (.group (Schema.labelOf [] [] spec id) name flatten children)) :
    FollowsAll v directive inherited children := by
  have below := h.2
  rw [Schema.address_labelOf, Directive.shows_of_not_lists unlisted] at below
  exact below

end Visibility

end StatusReport
