import StatusReport.Proofs.Schema.Built
import StatusReport.Report.Table

/-! # What ends a report early

Once the schema is built, the only thing that ends a report on its own is a formatter that refuses
the value it is given. A row takes its columns from the left, so the error of a row is that of its
leftmost column with a refusal.

* `Refuses`: a formatter refuses the value of a leaf.
* `leafText_eq_error_iff`: the error of a leaf is a refusal.
* `RowFailure`: the leftmost refusal in a row.
* `TableView.row_of_shows`, `TableView.row_of_failure`: a row without one and with one.
* `map_leaf_columns`: the leaves of the columns.
* `known_of_build`: the columns of a schema have the formatters that they name.
-/

namespace StatusReport

theorem all_or_first {α : Type u} (p : α → Prop) (l : List α) :
    (∀ a ∈ l, p a) ∨
      ∃ before a after, l = before ++ a :: after ∧ (∀ b ∈ before, p b) ∧ ¬ p a := by
  classical
  cases found : l.find? fun a => !decide (p a) with
  | none => exact .inl fun a ha => by simpa using List.find?_eq_none.1 found a ha
  | some a =>
    obtain ⟨fails, before, after, split, earlier⟩ := List.find?_eq_some_iff_append.1 found
    exact .inr ⟨before, a, after, split, fun b hb => by simpa using earlier b hb, by simpa using fails⟩

/-! ## Leaves -/

/-- The formatter of a leaf refuses the value that the leaf has in a record. -/
def Refuses (formatters : Registry) (r : Record) (leaf : Label) (cause : FormatError) : Prop :=
  ∃ id f v, leaf.formatter = some id ∧ formatters.get? id = some f ∧
    r.extract leaf.selector = some v ∧ f.apply v r = .error cause

def Known (formatters : Registry) (leaf : Label) : Prop :=
  ∀ id, leaf.formatter = some id → formatters.contains id = true

section Leaves

variable {formatters : Registry} {leaf : Label} {r : Record}

theorem leafText_eq_error_iff (known : Known formatters leaf) (e : ViewError) :
    leafText leaf formatters r = .error e ↔
      ∃ cause, Refuses formatters r leaf cause ∧ e = .format leaf.selectorPath cause := by
  simp only [leafText, valueText, Refuses]
  cases extracted : r.extract leaf.selector with
  | none => simp
  | some v =>
    -- Without a formatter the value is shown as it is, and nothing can refuse it.
    cases named : leaf.formatter with
    | none => simp [Except.map]
    | some id =>
      obtain ⟨f, found⟩ := Option.isSome_iff_exists.1 (known id named)
      cases applied : f.apply v r with
      | error cause => simp [found, applied, Except.map, eq_comm]
      | ok text => simp [found, applied, Except.map]

theorem leafText_of_refuses {cause : FormatError} (h : Refuses formatters r leaf cause) :
    leafText leaf formatters r = .error (.format leaf.selectorPath cause) := by
  obtain ⟨id, f, v, named, found, extracted, refused⟩ := h
  simp only [leafText, valueText, extracted, named, found, refused]
  rfl

theorem leafText_of_not_refuses (known : Known formatters leaf)
    (h : ∀ cause, ¬ Refuses formatters r leaf cause) :
    ∃ text, leafText leaf formatters r = .ok text := by
  cases made : leafText leaf formatters r with
  | ok text => exact ⟨text, rfl⟩
  | error e =>
    obtain ⟨cause, refused, -⟩ := (leafText_eq_error_iff known e).1 made
    exact absurd refused (h cause)

end Leaves

/-! ## Rows -/

/-- No formatter refuses a value in the row of a record. -/
def Shows (columns : List Column) (formatters : Registry) (r : Record) : Prop :=
  ∀ column ∈ columns, ∀ cause, ¬ Refuses formatters r column.leaf cause

/-- The leftmost refusal in the row of a record. -/
structure RowFailure (columns : List Column) (formatters : Registry) (r : Record) where
  left : List Column
  column : Column
  right : List Column
  cause : FormatError
  columns_eq : columns = left ++ column :: right
  shown : Shows left formatters r
  refused : Refuses formatters r column.leaf cause

def RowFailure.error {columns : List Column} {formatters : Registry} {r : Record}
    (failure : RowFailure columns formatters r) : ViewError :=
  .format failure.column.leaf.selectorPath failure.cause

theorem RowFailure.columns_ne_nil {columns : List Column} {formatters : Registry} {r : Record}
    (failure : RowFailure columns formatters r) : columns ≠ [] := by
  rw [failure.columns_eq]
  exact List.append_ne_nil_of_right_ne_nil _ (List.cons_ne_nil _ _)

theorem RowFailure.column_mem {columns : List Column} {formatters : Registry} {r : Record}
    (failure : RowFailure columns formatters r) : failure.column ∈ columns := by
  obtain ⟨left, column, right, cause, rfl, shown, refused⟩ := failure
  exact List.mem_append_right _ List.mem_cons_self

theorem shows_or_rowFailure (columns : List Column) (formatters : Registry) (r : Record) :
    Shows columns formatters r ∨ Nonempty (RowFailure columns formatters r) := by
  obtain shown | ⟨left, column, right, split, shown, here⟩ :=
    all_or_first (fun column => ∀ cause, ¬ Refuses formatters r column.leaf cause) columns
  · exact .inl shown
  · obtain ⟨cause, refused⟩ := Classical.not_forall_not.1 here
    exact .inr ⟨⟨left, column, right, cause, split, shown, refused⟩⟩

namespace TableView

section Rows

variable {columns : List Column} {formatters : Registry} {r : Record}

theorem row_of_shows (known : ∀ column ∈ columns, Known formatters column.leaf)
    (shown : Shows columns formatters r) : ∃ texts, row columns formatters r = .ok texts := by
  induction columns with
  | nil => exact ⟨[], rfl⟩
  | cons column rest ih =>
    obtain ⟨knownHead, knownTail⟩ := List.forall_mem_cons.1 known
    obtain ⟨shownHead, shownTail⟩ := List.forall_mem_cons.1 shown
    obtain ⟨text, made⟩ := leafText_of_not_refuses knownHead shownHead
    obtain ⟨texts, others⟩ := ih knownTail shownTail
    exact ⟨text :: texts, by simp only [row, made, others]⟩

theorem shows_of_row {texts : List String} (made : row columns formatters r = .ok texts) :
    Shows columns formatters r := by
  induction columns generalizing texts with
  | nil => exact fun _ hc => nomatch hc
  | cons column rest ih =>
    obtain ⟨text, others, first, more, rfl⟩ := row_cons_eq_ok_iff.1 made
    refine List.forall_mem_cons.2 ⟨fun cause refused => ?_, ih more⟩
    cases first.symm.trans (leafText_of_refuses refused)

/-- A row ends at its first refusal, whatever stands right of it. -/
theorem row_of_refuses {left right : List Column} {column : Column} {cause : FormatError}
    (known : ∀ first ∈ left, Known formatters first.leaf) (shown : Shows left formatters r)
    (refused : Refuses formatters r column.leaf cause) :
    row (left ++ column :: right) formatters r =
      .error (.format column.leaf.selectorPath cause) := by
  induction left with
  | nil => simp only [List.nil_append, row, leafText_of_refuses refused]
  | cons first rest ih =>
    obtain ⟨knownHead, knownTail⟩ := List.forall_mem_cons.1 known
    obtain ⟨shownHead, shownTail⟩ := List.forall_mem_cons.1 shown
    obtain ⟨text, made⟩ := leafText_of_not_refuses knownHead shownHead
    simp only [List.cons_append, row, made, ih knownTail shownTail]

theorem row_of_failure (known : ∀ column ∈ columns, Known formatters column.leaf)
    (failure : RowFailure columns formatters r) :
    row columns formatters r = .error failure.error := by
  obtain ⟨left, column, right, cause, rfl, shown, refused⟩ := failure
  exact row_of_refuses (fun first hf => known first (List.mem_append_left _ hf)) shown refused

end Rows

end TableView

/-! ## Columns of a schema -/

mutual

theorem map_leaf_columnsOf (visibility : Visibility) (around : Option ColumnGroup) (node : Node) :
    (columnsOf visibility around node).map (·.leaf) =
      node.leaves.filter (visibility.isShown ·.id) := by
  cases node with
  | leaf label =>
    rw [columnsOf, Node.leaves]
    cases shown : visibility.isShown label.id <;> simp [shown]
  | group label name flatten children =>
    rw [columnsOf, Node.leaves, map_leaf_columnsOfAll]

theorem map_leaf_columnsOfAll (visibility : Visibility) (around : Option ColumnGroup)
    (nodes : List Node) :
    (columnsOfAll visibility around nodes).map (·.leaf) =
      (Node.leavesOf nodes).filter (visibility.isShown ·.id) := by
  cases nodes with
  | nil => rfl
  | cons node rest =>
    rw [columnsOfAll, Node.leavesOf, List.map_append, List.filter_append, map_leaf_columnsOf,
      map_leaf_columnsOfAll]

end

theorem mem_columnsOf {visibility : Visibility} {around : Option ColumnGroup} {node : Node}
    {column : Column} (h : column ∈ columnsOf visibility around node) :
    column.leaf ∈ node.leaves ∧ visibility.isShown column.leaf.id = true := by
  have leaf : column.leaf ∈ (columnsOf visibility around node).map (·.leaf) :=
    List.mem_map_of_mem h
  rw [map_leaf_columnsOf] at leaf
  exact List.mem_filter.1 leaf

theorem map_leaf_columns (schema : Schema) (visibility : Visibility) :
    (columns schema visibility).map (·.leaf) = schema.leaves.filter (visibility.isShown ·.id) :=
  map_leaf_columnsOfAll visibility none schema.roots

theorem mem_columns {schema : Schema} {visibility : Visibility} {column : Column}
    (h : column ∈ columns schema visibility) :
    column.leaf ∈ schema.leaves ∧ visibility.isShown column.leaf.id = true := by
  have leaf : column.leaf ∈ (columns schema visibility).map (·.leaf) := List.mem_map_of_mem h
  rw [map_leaf_columns] at leaf
  exact List.mem_filter.1 leaf

theorem Node.mem_leavesOf {node : Node} {nodes : List Node} (hn : node ∈ nodes) {leaf : Label}
    (h : leaf ∈ node.leaves) : leaf ∈ leavesOf nodes := by
  induction nodes with
  | nil => cases hn
  | cons first rest ih =>
    rw [leavesOf]
    obtain rfl | hn := List.mem_cons.1 hn
    · exact List.mem_append_left _ h
    · exact List.mem_append_right _ (ih hn)

/-- The columns of a built schema name formatters of its registry. -/
theorem known_of_build {descriptor : Descriptor} {formatters : Registry} {schema : Schema}
    (built : Schema.build descriptor formatters = .ok schema) (visibility : Visibility) :
    ∀ column ∈ columns schema visibility, Known formatters column.leaf := fun column hc =>
  (Schema.build_eq_ok_iff.1 built).2.known column.leaf (mem_columns hc).1

namespace TableView

variable {descriptor : Descriptor} {options : ViewOptions}

theorem known_ofDescriptor {schema : Schema}
    (built : Schema.build descriptor options.formatters = .ok schema) :
    ∀ column ∈ (ofDescriptor descriptor options).columns,
      Known (ofDescriptor descriptor options).formatters column.leaf := by
  rw [ofDescriptor_ok built]
  exact known_of_build built _

end TableView

end StatusReport
