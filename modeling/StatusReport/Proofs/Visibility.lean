import StatusReport.Proofs.Schema.Built
import StatusReport.Visibility

/-! # What resolving makes

A visibility follows a directive on a tree if it shows every node as the directive decides from what
its parent is. Resolving makes such a visibility: the slots of a node and those below it are filled
once, and whatever is filled later has other numbers. Two visibilities that follow one directive
agree on the tree.

* `Visibility.Follows`, `Visibility.FollowsAll`: following a directive.
* `Visibility.followsAll_resolve`: resolving a schema.
* `Visibility.FollowsAll.agree`: there is one way to follow a directive.
-/

namespace StatusReport.Visibility

open Schema (Built)

mutual

/-- A node and all below it are shown as the directive decides, given whether its parent is. -/
def Follows (v : Visibility) (directive : Directive) (inherited : Bool) : Node → Prop
  | .leaf label => v.isShown label.id = directive.shows label.address inherited
  | .group label _ _ children =>
    v.isShown label.id = directive.shows label.address inherited ∧
      FollowsAll v directive (directive.shows label.address inherited) children

def FollowsAll (v : Visibility) (directive : Directive) (inherited : Bool) : List Node → Prop
  | [] => True
  | node :: rest => Follows v directive inherited node ∧ FollowsAll v directive inherited rest

end

theorem FollowsAll.take {v : Visibility} {directive : Directive} {inherited : Bool}
    {nodes : List Node} (h : FollowsAll v directive inherited nodes) (count : Nat) :
    FollowsAll v directive inherited (nodes.take count) := by
  induction nodes generalizing count with
  | nil => simpa using h
  | cons node rest ih =>
    cases count with
    | zero => trivial
    | succ count => exact ⟨h.1, ih h.2 count⟩

/-! ## Agreement -/

section Agreement

variable {v w : Visibility} {directive : Directive}

mutual

theorem Follows.agree {inherited : Bool} {node : Node} (hv : Follows v directive inherited node)
    (hw : Follows w directive inherited node) :
    ∀ n ∈ node.flat, v.isShown n.label.id = w.isShown n.label.id := by
  cases node with
  | leaf label =>
    rw [Node.flat, List.forall_mem_singleton]
    exact hv.trans hw.symm
  | group label name flatten children =>
    rw [Node.flat, List.forall_mem_cons]
    exact ⟨hv.1.trans hw.1.symm, FollowsAll.agree hv.2 hw.2⟩

theorem FollowsAll.agree {inherited : Bool} {nodes : List Node}
    (hv : FollowsAll v directive inherited nodes) (hw : FollowsAll w directive inherited nodes) :
    ∀ n ∈ Node.flatAll nodes, v.isShown n.label.id = w.isShown n.label.id := by
  cases nodes with
  | nil => exact fun _ hn => nomatch hn
  | cons node rest =>
    rw [Node.flatAll, List.forall_mem_append]
    exact ⟨Follows.agree hv.1 hw.1, FollowsAll.agree hv.2 hw.2⟩

end

mutual

theorem Follows.congr {inherited : Bool} {node : Node}
    (same : ∀ n ∈ node.flat, v.isShown n.label.id = w.isShown n.label.id)
    (h : Follows v directive inherited node) : Follows w directive inherited node := by
  cases node with
  | leaf label =>
    rw [Node.flat, List.forall_mem_singleton] at same
    exact same.symm.trans h
  | group label name flatten children =>
    rw [Node.flat, List.forall_mem_cons] at same
    exact ⟨same.1.symm.trans h.1, FollowsAll.congr same.2 h.2⟩

/-- Following a directive is about the slots of the tree alone. -/
theorem FollowsAll.congr {inherited : Bool} {nodes : List Node}
    (same : ∀ n ∈ Node.flatAll nodes, v.isShown n.label.id = w.isShown n.label.id)
    (h : FollowsAll v directive inherited nodes) : FollowsAll w directive inherited nodes := by
  cases nodes with
  | nil => trivial
  | cons node rest =>
    rw [Node.flatAll, List.forall_mem_append] at same
    exact ⟨Follows.congr same.1 h.1, FollowsAll.congr same.2 h.2⟩

end

end Agreement

/-! ## Filling -/

section Filling

variable {formatters : Registry} {path selector : List String} {fields : List Field}
  {next after : Nat} {nodes : List Node}

theorem fillNodes_leaf (directive : Directive) (inherited : Bool) (label : Label)
    (rest : List Node) (slots : List Bool) :
    fillNodes directive inherited (.leaf label :: rest) slots =
      fillNodes directive inherited rest
        (slots.set label.id (directive.shows label.address inherited)) := rfl

theorem fillNodes_group (directive : Directive) (inherited : Bool) (label : Label) (name : String)
    (flatten : Bool) (children rest : List Node) (slots : List Bool) :
    fillNodes directive inherited (.group label name flatten children :: rest) slots =
      fillNodes directive inherited rest
        (fillNodes directive (directive.shows label.address inherited) children
          (slots.set label.id (directive.shows label.address inherited))) := rfl

theorem fillNodes_outside (built : Built formatters path selector fields next nodes after)
    (directive : Directive) (inherited : Bool) (slots : List Bool) {id : Nat}
    (outside : id < next ∨ after ≤ id) :
    (fillNodes directive inherited nodes slots)[id]? = slots[id]? := by
  induction built generalizing inherited slots with
  | nil => rfl
  | @leaf _ _ _ _ next _ _ _ _ others ih =>
    have bound := others.le
    have ne : next ≠ id := by omega
    rw [fillNodes_leaf, ih inherited _ (by omega)]
    exact List.getElem?_set_ne ne
  | @group _ _ _ _ _ next _ _ _ _ _ _ _ inside others ihInside ihOthers =>
    have bounds := And.intro inside.le others.le
    have ne : next ≠ id := by omega
    -- The group's own number is taken before those below it, and they before those after it.
    rw [fillNodes_group, ihOthers inherited _ (by omega), ihInside _ _ (by omega)]
    exact List.getElem?_set_ne ne

theorem length_fillNodes (built : Built formatters path selector fields next nodes after)
    (directive : Directive) (inherited : Bool) (slots : List Bool) :
    (fillNodes directive inherited nodes slots).length = slots.length := by
  induction built generalizing inherited slots with
  | nil => rfl
  | leaf _ _ _ ih => rw [fillNodes_leaf, ih, List.length_set]
  | group _ _ _ _ ihInside ihOthers =>
    rw [fillNodes_group, ihOthers, ihInside, List.length_set]

theorem isShown_mk (slots : List Bool) (id : Nat) :
    (Visibility.mk slots).isShown id = slots[id]?.getD false := by
  rw [isShown, List.getD_eq_getElem?_getD]

theorem followsAll_fillNodes (built : Built formatters path selector fields next nodes after)
    (directive : Directive) (inherited : Bool) (slots : List Bool) (room : after ≤ slots.length) :
    FollowsAll ⟨fillNodes directive inherited nodes slots⟩ directive inherited nodes := by
  induction built generalizing inherited slots with
  | nil => trivial
  | @leaf path selector field _ next _ _ _ _ others ih =>
    have bound := others.le
    rw [fillNodes_leaf, Schema.labelOf_id]
    refine ⟨?_, ih inherited _ (by rw [List.length_set]; exact room)⟩
    rw [Follows, isShown_mk, Schema.labelOf_id, fillNodes_outside others _ _ _ (by omega),
      List.getElem?_set_self (by omega)]
    rfl
  | @group path selector field _ _ next middle _ _ children _ _ _ inside others ihInside ihOthers =>
    have bounds := And.intro inside.le others.le
    rw [fillNodes_group, Schema.labelOf_id]
    generalize chosen : directive.shows (Schema.labelOf path selector field.spec next).address
      inherited = shown
    have length : (fillNodes directive shown children (slots.set next shown)).length =
        slots.length := by
      rw [length_fillNodes inside, List.length_set]
    refine ⟨⟨?_, ?_⟩, ihOthers inherited _ (by omega)⟩
    · rw [isShown_mk, Schema.labelOf_id, fillNodes_outside others _ _ _ (by omega),
        fillNodes_outside inside _ _ _ (by omega), List.getElem?_set_self (by omega), chosen]
      rfl
    · -- What is filled after the children has numbers beyond theirs.
      have below := ihInside shown (slots.set next shown) (by rw [List.length_set]; omega)
      rw [chosen]
      refine FollowsAll.congr (fun n hn => ?_) below
      rw [isShown_mk, isShown_mk,
        fillNodes_outside others _ _ _ (.inl (inside.number_mem hn).2)]

/-- Resolving a schema makes it follow the directive. -/
theorem followsAll_resolve {descriptor : Descriptor} {schema : Schema}
    (built : Schema.build descriptor formatters = .ok schema) (directive : Directive) :
    FollowsAll (resolve schema directive) directive directive.rootDefault schema.roots := by
  have tree := (Schema.build_eq_ok_iff.1 built).2
  exact followsAll_fillNodes tree directive directive.rootDefault _ (by simp)

end Filling

end StatusReport.Visibility
