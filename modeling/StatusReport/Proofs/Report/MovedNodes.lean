import StatusReport.Proofs.Report.Agreement
import StatusReport.Proofs.Report.HiddenData
import StatusReport.Proofs.Report.ShownColumns
import StatusReport.Proofs.Report.Twins
import StatusReport.Proofs.Schema.Moved

/-! # Moved nodes in reports

Nodes that have been moved make moved columns, and lines that come to the same, provided that the
same leaves are shown at both places and that their selectors lead to the same values there.

* `sameCell_moved`: a moved leaf comes to the same.
* `FaithfulMove`: nodes whose leaves are shown elsewhere and have their values there.
* `FaithfulMove.columns`, `FaithfulMove.lines`: their columns and lines.
* `Schema.Built.group_bounds`: the numbers of the groups of columns.
* `DetailView.render_of_same_lines`: listings whose lines come to the same.
-/

namespace StatusReport

/-! ## Leaves -/

section Leaves

variable {formatters : Registry}

theorem toOption_valueText_moved (ignore : formatters.IgnoreRecords) (around : List String)
    (shift : Nat) (leaf : Label) (r r' : Record) (v : Value) :
    (valueText (leaf.moved around shift) formatters r' v).toOption =
      (valueText leaf formatters r v).toOption := by
  simp only [valueText, Label.formatter_moved]
  cases leaf.formatter with
  | none => rfl
  | some id =>
    simp only
    cases found : formatters.get? id with
    | none => rfl
    | some f =>
      simp only [ignore id f found v r' r]
      cases f.apply v r <;> rfl

theorem sameCell_moved (ignore : formatters.IgnoreRecords) {r r' : Record} {around : List String}
    (shift : Nat) {leaf : Label}
    (same : r'.extract (around ++ leaf.selector) = r.extract leaf.selector) :
    SameCell formatters r r' leaf (leaf.moved around shift) where
  text := by
    rw [leafText, leafText, Label.selector_moved, same]
    cases r.extract leaf.selector with
    | none => rfl
    | some v =>
      obtain ⟨e, e', here, there⟩ | ⟨text, here, there⟩ :=
        toOption_eq_cases (toOption_valueText_moved ignore around shift leaf r r' v)
      · simp only [here, there]
        rfl
      · simp only [here, there]
        rfl
  refuses cause := by
    rw [Refuses, Refuses, Label.formatter_moved, Label.selector_moved, same]
    constructor
    · rintro ⟨id, f, v, named, found, extracted, refused⟩
      exact ⟨id, f, v, named, found, extracted, (ignore id f found v r r').trans refused⟩
    · rintro ⟨id, f, v, named, found, extracted, refused⟩
      exact ⟨id, f, v, named, found, extracted, (ignore id f found v r' r).trans refused⟩

end Leaves

/-- Nodes whose leaves are shown elsewhere as they are here, and lead to the same values there. -/
structure FaithfulMove (v w : Visibility) (S : Record → Record → Prop) (around : List String)
    (shift : Nat) (nodes : List Node) : Prop where
  shown : Visibility.MovedLeaves v w shift (Node.leavesOf nodes)
  extract_eq : ∀ leaf ∈ Node.leavesOf nodes, ∀ r r', S r r' →
    r'.extract (around ++ leaf.selector) = r.extract leaf.selector

/-! ## Columns -/

def Column.moved (around : List String) (shift : Nat) (column : Column) : Column :=
  ⟨column.leaf.moved around shift, column.group.map (.renumber (· + shift))⟩

section Columns

variable {v w : Visibility} {around : List String} {shift : Nat}

open Visibility (MovedLeaves)

mutual

theorem columnsOf_moved (group : Option ColumnGroup) {node : Node}
    (shown : MovedLeaves v w shift node.leaves) :
    columnsOf w (group.map (.renumber (· + shift))) (node.moved around shift) =
      (columnsOf v group node).map (.moved around shift) := by
  cases node with
  | leaf label =>
    rw [MovedLeaves, Node.leaves, List.forall_mem_singleton] at shown
    rw [Node.moved, columnsOf, columnsOf, Label.id_moved, shown]
    cases v.isShown label.id <;> rfl
  | group label name flatten children =>
    rw [Node.moved, columnsOf, columnsOf]
    cases flatten with
    | true => exact columnsOfAll_moved group shown
    | false => exact columnsOfAll_moved (some ⟨label.id, name⟩) shown

theorem columnsOfAll_moved (group : Option ColumnGroup) {nodes : List Node}
    (shown : MovedLeaves v w shift (Node.leavesOf nodes)) :
    columnsOfAll w (group.map (.renumber (· + shift))) (Node.movedAll around shift nodes) =
      (columnsOfAll v group nodes).map (.moved around shift) := by
  cases nodes with
  | nil => rfl
  | cons node rest =>
    rw [MovedLeaves, Node.leavesOf, List.forall_mem_append] at shown
    rw [Node.movedAll, columnsOfAll, columnsOfAll, List.map_append,
      columnsOf_moved group shown.1, columnsOfAll_moved group shown.2]

end

theorem columnsOfAll_append (visibility : Visibility) (group : Option ColumnGroup)
    (a b : List Node) :
    columnsOfAll visibility group (a ++ b) =
      columnsOfAll visibility group a ++ columnsOfAll visibility group b := by
  induction a with
  | nil => rfl
  | cons node rest ih =>
    rw [List.cons_append, columnsOfAll, columnsOfAll, ih, List.append_assoc]

end Columns

section Bounds

variable {formatters : Registry} {path selector : List String} {fields : List Field}
  {next after : Nat} {nodes : List Node} {visibility : Visibility} {column : Column}

theorem leaf_mem_of_mem_columnsOfAll (h : column ∈ columnsOfAll visibility none nodes) :
    column.leaf ∈ Node.leavesOf nodes := by
  have leaf : column.leaf ∈ (columnsOfAll visibility none nodes).map (·.leaf) :=
    List.mem_map_of_mem h
  rw [map_leaf_columnsOfAll] at leaf
  exact (List.mem_filter.1 leaf).1

theorem Schema.Built.group_bounds
    (built : Built formatters path selector fields next nodes after)
    (h : column ∈ columnsOfAll visibility none nodes) {group : ColumnGroup}
    (grouped : column.group = some group) : next ≤ group.id ∧ group.id < after := by
  obtain ⟨box, member, boxed⟩ := box_of_group h grouped
  rw [← Node.id_of_box? boxed]
  exact built.number_mem member

end Bounds

/-! ## Lines -/

theorem andThen_assoc {ε α : Type _} (a b c : Except ε (List α)) :
    andThen (andThen a b) c = andThen a (andThen b c) := by
  cases a with
  | error e => rfl
  | ok a =>
    cases b with
    | error e => rfl
    | ok b => cases c <;> simp [andThen, Except.map]

theorem toOption_andThen_congr {ε α : Type _} {a a' b b' : Except ε (List α)}
    (first : a'.toOption = a.toOption) (second : b'.toOption = b.toOption) :
    (andThen a' b').toOption = (andThen a b).toOption := by
  obtain ⟨e, e', here, there⟩ | ⟨l, here, there⟩ := toOption_eq_cases first
  · rw [here, there]
    rfl
  · obtain ⟨e, e', here', there'⟩ | ⟨l', here', there'⟩ := toOption_eq_cases second
    · rw [here, there, here', there']
      rfl
    · rw [here, there, here', there']

namespace DetailView

open Visibility (MovedLeaves)

section Moved

variable {v w : Visibility} {formatters : Registry} {r r' : Record} {around : List String}
  {shift : Nat}

mutual

theorem linesOf_moved (depth : Nat) {node : Node} (shown : MovedLeaves v w shift node.leaves)
    (same : ∀ leaf ∈ node.leaves, SameCell formatters r r' leaf (leaf.moved around shift)) :
    (linesOf w formatters r' depth (node.moved around shift)).toOption =
      (linesOf v formatters r depth node).toOption := by
  cases node with
  | leaf label =>
    rw [MovedLeaves, Node.leaves, List.forall_mem_singleton] at shown
    rw [Node.leaves, List.forall_mem_singleton] at same
    rw [Node.moved, linesOf, linesOf, Label.id_moved, shown]
    cases v.isShown label.id with
    | false => rfl
    | true =>
      simp only [if_true, Label.title_moved]
      obtain ⟨e, e', here, there⟩ | ⟨text, here, there⟩ := toOption_eq_cases same.text
      · rw [here, there]
        rfl
      · rw [here, there]
  | group label name flatten children =>
    rw [Node.moved, linesOf, linesOf]
    cases flatten with
    | true => exact linesOfAll_moved depth shown same
    | false =>
      -- There is a header if there are lines, and these are the same at both places.
      simp only [Bool.false_eq_true, if_false]
      obtain ⟨e, e', here, there⟩ | ⟨lines, here, there⟩ :=
        toOption_eq_cases (linesOfAll_moved (depth + 1) shown same)
      · rw [here, there]
        rfl
      · rw [here, there]
        cases lines <;> rfl

/-- Moved nodes have the same lines, or none as these have none. -/
theorem linesOfAll_moved (depth : Nat) {nodes : List Node}
    (shown : MovedLeaves v w shift (Node.leavesOf nodes))
    (same : ∀ leaf ∈ Node.leavesOf nodes,
      SameCell formatters r r' leaf (leaf.moved around shift)) :
    (linesOfAll w formatters r' depth (Node.movedAll around shift nodes)).toOption =
      (linesOfAll v formatters r depth nodes).toOption := by
  cases nodes with
  | nil => rfl
  | cons node rest =>
    rw [MovedLeaves, Node.leavesOf, List.forall_mem_append] at shown
    rw [Node.leavesOf, List.forall_mem_append] at same
    rw [Node.movedAll, linesOfAll_cons, linesOfAll_cons]
    exact toOption_andThen_congr (linesOf_moved depth shown.1 same.1)
      (linesOfAll_moved depth shown.2 same.2)

end

end Moved

theorem linesOfAll_append (visibility : Visibility) (formatters : Registry) (r : Record)
    (depth : Nat) (a b : List Node) :
    linesOfAll visibility formatters r depth (a ++ b) =
      andThen (linesOfAll visibility formatters r depth a)
        (linesOfAll visibility formatters r depth b) := by
  induction a with
  | nil =>
    rw [List.nil_append, linesOfAll]
    cases linesOfAll visibility formatters r depth b <;> rfl
  | cons node rest ih =>
    rw [List.cons_append, linesOfAll_cons, linesOfAll_cons, ih, andThen_assoc]

variable {view view' : DetailView} {r r' : Record}

theorem script_of_lines {made : List Line} (h : view.lines r = .ok made) :
    view.script r = ⟨made.map Line.text, .ok ()⟩ := by
  have lines := lines_join_fieldScript h
  have ending := ending_join_fieldScript view.visibility view.formatters r view.roots
  rw [show linesOfAll view.visibility view.formatters r 0 view.roots = .ok made from h] at ending
  rw [script, ← lines]
  exact congrArg (Script.mk _) ending

theorem result_ne_ok_of_lines {σ : Type u} [Sink σ] {s : σ} {e : ViewError}
    (fresh : view.error = none) (failed : view.lines r = .error e) :
    (view.render s r).1.result ≠ .ok () := by
  intro ended
  have performed := (Report.result_render view fresh s r).symm.trans ended
  have ending := (ending_join_fieldScript view.visibility view.formatters r view.roots).symm.trans
    (Script.ending_of_perform performed)
  rw [show linesOfAll view.visibility view.formatters r 0 view.roots = .error e from failed] at ending
  cases ending

/-- Listings whose lines come to the same succeed together, and then write the same. -/
theorem render_of_same_lines {σ : Type u} [Sink σ] (s : σ) (fresh : view.error = none)
    (fresh' : view'.error = none) (same : (view'.lines r').toOption = (view.lines r).toOption) :
    ((view.render s r).1.result = .ok () ↔ (view'.render s r').1.result = .ok ()) ∧
      ((view.render s r).1.result = .ok () → (view.render s r).2 = (view'.render s r').2) := by
  obtain ⟨e, e', here, there⟩ | ⟨made, here, there⟩ := toOption_eq_cases same
  · have never := result_ne_ok_of_lines (s := s) fresh here
    have never' := result_ne_ok_of_lines (s := s) fresh' there
    exact ⟨iff_of_false never never', fun ended => absurd ended never⟩
  · have scripts : view.script r = view'.script r' := by
      rw [script_of_lines here, script_of_lines there]
    rw [render_eq, render_eq, fresh, fresh', scripts]
    exact ⟨Iff.rfl, fun _ => rfl⟩

end DetailView

/-! ## Faithful moves -/

namespace FaithfulMove

variable {formatters : Registry} {v w : Visibility} {S : Record → Record → Prop}
  {around : List String} {shift : Nat} {nodes : List Node}

theorem columns (move : FaithfulMove v w S around shift nodes) :
    columnsOfAll w none (Node.movedAll around shift nodes) =
      (columnsOfAll v none nodes).map (.moved around shift) :=
  columnsOfAll_moved none move.shown

theorem sameCell (move : FaithfulMove v w S around shift nodes) (ignore : formatters.IgnoreRecords)
    {r r' : Record} (pair : S r r') {leaf : Label} (member : leaf ∈ Node.leavesOf nodes) :
    SameCell formatters r r' leaf (leaf.moved around shift) :=
  sameCell_moved ignore shift (move.extract_eq leaf member r r' pair)

theorem lines (move : FaithfulMove v w S around shift nodes) (ignore : formatters.IgnoreRecords)
    {r r' : Record} (pair : S r r') (depth : Nat) :
    (DetailView.linesOfAll w formatters r' depth (Node.movedAll around shift nodes)).toOption =
      (DetailView.linesOfAll v formatters r depth nodes).toOption :=
  DetailView.linesOfAll_moved depth move.shown fun _ member => move.sameCell ignore pair member

end FaithfulMove

end StatusReport
