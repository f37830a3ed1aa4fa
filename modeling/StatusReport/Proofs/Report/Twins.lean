import StatusReport.Proofs.Report.TableRun
import StatusReport.Proofs.Schema.Walk

/-! # Tables that come to the same

A leaf for one record comes to the same as another leaf for another record if both have the same
text, or are refused for the same cause. Tables whose columns come to the same one by one write the
same rows, and fail at the same record and the same column. Their headers are the same too if the
titles are, and if the groups differ in their numbers alone.

* `SameCell`: a leaf for a record comes to the same as another leaf for another record.
* `TableView.Twins`: tables whose columns come to the same.
* `TableView.SameEnd`, `TableView.Twins.script`: how the tables of twins end, and what they write.
* `tableLines_renumber`: the lines of a table do not depend on the numbers of groups.
-/

namespace StatusReport

/-! ## Cells -/

/-- A leaf for a record comes to the same as another leaf for another record: the same text, or a
    refusal for the same cause. -/
structure SameCell (formatters : Registry) (r r' : Record) (leaf leaf' : Label) : Prop where
  text : (leafText leaf' formatters r').toOption = (leafText leaf formatters r).toOption
  refuses : ∀ cause, Refuses formatters r' leaf' cause ↔ Refuses formatters r leaf cause

section Cells

theorem toOption_eq_some_iff {ε α : Type _} {x : Except ε α} {a : α} :
    x.toOption = some a ↔ x = .ok a := by
  cases x <;> simp [Except.toOption]

theorem toOption_eq_cases {ε α : Type _} {x x' : Except ε α} (same : x'.toOption = x.toOption) :
    (∃ e e', x = .error e ∧ x' = .error e') ∨ ∃ a, x = .ok a ∧ x' = .ok a := by
  cases x with
  | error e =>
    cases x' with
    | error e' => exact .inl ⟨e, e', rfl, rfl⟩
    | ok a => cases same
  | ok a => exact .inr ⟨a, rfl, toOption_eq_some_iff.1 same⟩

end Cells

/-! ## Rows -/

section Rows

variable {formatters : Registry} {r r' : Record} {columns columns' : List Column}

theorem TableView.row_of_sameCells {texts : List String}
    (same : List.Forall₂ (fun c c' => SameCell formatters r r' c.leaf c'.leaf) columns columns')
    (made : row columns formatters r = .ok texts) : row columns' formatters r' = .ok texts := by
  induction same generalizing texts with
  | nil => exact made
  | cons here _ ih =>
    obtain ⟨text, others, first, more, rfl⟩ := row_cons_eq_ok_iff.1 made
    have text' := here.text.trans (toOption_eq_some_iff.2 first)
    exact row_cons_eq_ok_iff.2 ⟨text, others, toOption_eq_some_iff.1 text', ih more, rfl⟩

theorem Shows.of_sameCells
    (same : List.Forall₂ (fun c c' => SameCell formatters r r' c.leaf c'.leaf) columns columns')
    (shown : Shows columns formatters r) : Shows columns' formatters r' := by
  induction same with
  | nil => exact fun _ hc => nomatch hc
  | cons here _ ih =>
    obtain ⟨head, tail⟩ := List.forall_mem_cons.1 shown
    exact List.forall_mem_cons.2 ⟨fun cause refused => head cause ((here.refuses cause).1 refused),
      ih tail⟩

end Rows

namespace TableView

/-- Tables whose columns correspond, so that for corresponding records they come to the same. -/
structure Twins (R : Column → Column → Prop) (S : Record → Record → Prop) (view view' : TableView) :
    Prop where
  formatters : view'.formatters = view.formatters
  columns : List.Forall₂ R view.columns view'.columns
  cells : ∀ c c', R c c' → ∀ r r', S r r' → SameCell view.formatters r r' c.leaf c'.leaf
  known : ∀ c ∈ view.columns, Known view.formatters c.leaf
  known' : ∀ c ∈ view'.columns, Known view'.formatters c.leaf

def tableLines (columns : List Column) (rows : List (List String)) : List String :=
  if columns = [] then [] else headerLines columns ++ rows.map cellLine

/-- Two tables end alike: neither has an error, both have one of the schema, their sinks refuse for
    the same cause, or in both a formatter refuses at the same record and the same column, for the
    same cause. -/
inductive SameEnd (R : Column → Column → Prop) (view view' : TableView)
    (records records' : List Record) : Except ViewError Unit → Except ViewError Unit → Prop where
  | done : SameEnd R view view' records records' (.ok ()) (.ok ())
  | schema (e e' : SchemaError) :
      SameEnd R view view' records records' (.error (.schema e)) (.error (.schema e'))
  | sink (e : SinkError) :
      SameEnd R view view' records records' (.error (.sink e)) (.error (.sink e))
  | refused (failure : RunFailure view.columns view.formatters [records])
      (failure' : RunFailure view'.columns view'.formatters [records'])
      (record : failure'.shown.length = failure.shown.length)
      (column : failure'.row.left.length = failure.row.left.length)
      (cause : failure'.row.cause = failure.row.cause)
      (related : R failure.row.column failure'.row.column) :
      SameEnd R view view' records records' (.error failure.row.error) (.error failure'.row.error)

section SameEnd

variable {R R' : Column → Column → Prop} {view view' : TableView} {records records' : List Record}
  {ending ending' : Except ViewError Unit}

theorem SameEnd.imp (alike : SameEnd R view view' records records' ending ending')
    (weaker : ∀ c c', R c c' → R' c c') : SameEnd R' view view' records records' ending ending' := by
  cases alike with
  | done => exact .done
  | schema e e' => exact .schema e e'
  | sink e => exact .sink e
  | refused failure failure' record column cause related =>
    exact .refused failure failure' record column cause (weaker _ _ related)

theorem SameEnd.render {σ : Type u} [Sink σ] (fresh : view.error = none)
    (fresh' : view'.error = none) (lines : (view.script records).lines = (view'.script records').lines)
    (alike : SameEnd R view view' records records' (view.script records).ending
      (view'.script records').ending) (s : σ) :
    (view.render s records).2 = (view'.render s records').2 ∧
      SameEnd R view view' records records' (view.render s records).1.result
        (view'.render s records').1.result := by
  obtain ⟨written, ended⟩ := Script.perform_of_same_lines lines s
  have result : (view.render s records).1.result = (Script.perform s (view.script records)).2 :=
    Report.result_render view fresh s records
  have result' : (view'.render s records').1.result = (Script.perform s (view'.script records')).2 :=
    Report.result_render view' fresh' s records'
  rw [result, result']
  refine ⟨(Report.sink_render view fresh s records).trans
    (written.trans (Report.sink_render view' fresh' s records').symm), ?_⟩
  obtain ⟨cause, here, there⟩ | ⟨here, there⟩ := ended
  · rw [here, there]
    exact .sink cause
  · rw [here, there]
    exact alike

end SameEnd

section Twins

variable {R : Column → Column → Prop} {S : Record → Record → Prop} {view view' : TableView}
  {records records' : List Record}

theorem Twins.sameCells (twins : Twins R S view view') {r r' : Record} (pair : S r r') :
    List.Forall₂ (fun c c' => SameCell view.formatters r r' c.leaf c'.leaf)
      view.columns view'.columns :=
  twins.columns.imp fun c c' related => twins.cells c c' related r r' pair

theorem Twins.rows (twins : Twins R S view view') (pairs : List.Forall₂ S records records')
    {rows : List (List String)}
    (made : records.map (row view.columns view.formatters) = rows.map .ok) :
    records'.map (row view'.columns view'.formatters) = rows.map .ok := by
  induction pairs generalizing rows with
  | nil => exact made
  | cons pair _ ih =>
    obtain _ | ⟨texts, rows⟩ := rows
    · cases made
    · rw [List.map_cons, List.map_cons, List.cons.injEq] at made ⊢
      refine ⟨?_, ih made.2⟩
      rw [twins.formatters]
      exact row_of_sameCells (twins.sameCells pair) made.1

theorem Twins.shows (twins : Twins R S view view') (pairs : List.Forall₂ S records records')
    (shown : ∀ r ∈ records, Shows view.columns view.formatters r) :
    ∀ r ∈ records', Shows view'.columns view'.formatters r := by
  induction pairs with
  | nil => exact fun _ hr => nomatch hr
  | cons pair _ ih =>
    obtain ⟨head, tail⟩ := List.forall_mem_cons.1 shown
    refine List.forall_mem_cons.2 ⟨?_, ih tail⟩
    rw [twins.formatters]
    exact head.of_sameCells (twins.sameCells pair)

theorem Twins.rowFailure (twins : Twins R S view view') {r r' : Record} (pair : S r r')
    (failure : RowFailure view.columns view.formatters r) :
    ∃ failure' : RowFailure view'.columns view'.formatters r',
      failure'.left.length = failure.left.length ∧ failure'.cause = failure.cause ∧
        R failure.column failure'.column := by
  -- The columns split where these do, and the cells to the left come to the same.
  obtain ⟨left, column, right, cause, split, shown, refused⟩ := failure
  have columns := twins.columns
  rw [split] at columns
  obtain ⟨left', column', right', split', front, related, -⟩ := forall₂_split columns
  have cells := front.imp fun c c' related => twins.cells c c' related r r' pair
  refine ⟨⟨left', column', right', cause, split', ?_, ?_⟩, front.length_eq.symm, rfl, related⟩
  · rw [twins.formatters]
    exact shown.of_sameCells cells
  · rw [twins.formatters]
    exact ((twins.cells column column' related r r' pair).refuses cause).2 refused

theorem columns_eq_nil (twins : Twins R S view view') : view'.columns = [] ↔ view.columns = [] := by
  rw [← List.length_eq_zero_iff, ← twins.columns.length_eq, List.length_eq_zero_iff]

/-- Twins write the same rows, those of the first records, and end alike. -/
theorem Twins.script (twins : Twins R S view view') (pairs : List.Forall₂ S records records') :
    ∃ rows : List (List String),
      (∃ shown, shown <+: records ∧
        shown.map (row view.columns view.formatters) = rows.map .ok) ∧
      (view.script records).lines = tableLines view.columns rows ∧
      (view'.script records').lines = tableLines view'.columns rows ∧
      SameEnd R view view' records records' (view.script records).ending
        (view'.script records').ending := by
  by_cases empty : view.columns = []
  · have empty' := (columns_eq_nil twins).2 empty
    rw [script_of_empty empty, script_of_empty empty']
    exact ⟨[], ⟨[], List.nil_prefix, rfl⟩, by simp [tableLines, empty],
      by simp [tableLines, empty'], .done⟩
  · have filled' := mt (columns_eq_nil twins).1 empty
    simp only [tableLines, if_neg empty, if_neg filled']
    obtain all | ⟨shown, r, later, split, before, ⟨failure⟩⟩ :=
      shows_or_first view.columns view.formatters records
    · obtain ⟨rows, made⟩ := rows_of_shown twins.known all
      rw [script_of_rows empty made, script_of_rows filled' (twins.rows pairs made)]
      exact ⟨rows, ⟨records, List.prefix_rfl, made⟩, rfl, rfl, .done⟩
    · -- The records of the twin split where these do, and its row fails where this row does.
      obtain ⟨rows, made⟩ := rows_of_shown twins.known before
      have corresponding := pairs
      rw [split] at corresponding
      obtain ⟨shown', r', later', split', front, pair, -⟩ := forall₂_split corresponding
      obtain ⟨failure', column, cause, related⟩ := twins.rowFailure pair failure
      have failed := row_of_failure twins.known failure
      have failed' := row_of_failure twins.known' failure'
      have ended : SameEnd R view view' records records' (.error failure.error)
          (.error failure'.error) :=
        .refused
          { before := [], shown := shown, record := r, later := later, after := []
            batches_eq := by rw [split]; rfl
            before_shown := fun _ hb => nomatch hb
            shown_shown := before
            row := failure }
          { before := [], shown := shown', record := r', later := later', after := []
            batches_eq := by rw [split']; rfl
            before_shown := fun _ hb => nomatch hb
            shown_shown := twins.shows front before
            row := failure' }
          front.length_eq.symm column cause related
      refine ⟨rows, ⟨shown, ⟨r :: later, split.symm⟩, made⟩, ?_, ?_, ?_⟩
      · rw [split, script_of_failure empty made failed]
      · rw [split', script_of_failure filled' (twins.rows front made) failed']
      · have ending : (view.script records).ending = .error failure.error := by
          rw [split, script_of_failure empty made failed]
        have ending' : (view'.script records').ending = .error failure'.error := by
          rw [split', script_of_failure filled' (twins.rows front made) failed']
        rw [ending, ending']
        exact ended

end Twins

end TableView

/-! ## Headers -/

def ColumnGroup.renumber (f : Nat → Nat) (g : ColumnGroup) : ColumnGroup := { g with id := f g.id }

theorem groupCells_renumber {f : Nat → Nat} (injective : Function.Injective f)
    {columns columns' : List Column}
    (same : List.Forall₂ (fun c c' => c'.group = c.group.map (.renumber f)) columns columns')
    (previous : Option Nat) (first : Bool) :
    groupCells (previous.map f) first columns' = groupCells previous first columns := by
  induction same generalizing previous first with
  | nil => rfl
  | @cons column column' _ _ here _ ih =>
    rw [groupCells, groupCells, here]
    cases column.group with
    | none => exact congrArg ("" :: ·) (ih none first)
    | some g =>
      -- A run of columns goes on under the new numbers exactly where it did.
      have number : previous.map f = some (g.renumber f).id ↔ previous = some g.id := by
        cases previous <;> simp [ColumnGroup.renumber, injective.eq_iff]
      simp only [Option.map_some, number]
      split
      · exact congrArg ("" :: ·) (ih previous first)
      · exact congrArg (groupLabel first g :: ·) (ih (some g.id) false)

/-- The header depends on titles and names, and on which columns share a group. -/
theorem headerLines_renumber {f : Nat → Nat} (injective : Function.Injective f)
    {columns columns' : List Column}
    (same : List.Forall₂ (fun c c' => c'.leaf.title = c.leaf.title ∧
      c'.group = c.group.map (.renumber f)) columns columns') :
    headerLines columns' = headerLines columns := by
  have titles : columns'.map (·.leaf.title) = columns.map (·.leaf.title) := by
    induction same with
    | nil => rfl
    | cons here _ ih => rw [List.map_cons, List.map_cons, here.1, ih]
  have grouped : columns'.any (·.group.isSome) = columns.any (·.group.isSome) := by
    clear titles
    induction same with
    | nil => rfl
    | cons here _ ih => simp [here.2, ih]
  have cells := groupCells_renumber injective (same.imp fun _ _ here => here.2) none true
  rw [Option.map_none] at cells
  simp only [headerLines, titles, grouped, cells]

theorem tableLines_renumber {f : Nat → Nat} (injective : Function.Injective f)
    {columns columns' : List Column}
    (same : List.Forall₂ (fun c c' => c'.leaf.title = c.leaf.title ∧
      c'.group = c.group.map (.renumber f)) columns columns') (rows : List (List String)) :
    TableView.tableLines columns' rows = TableView.tableLines columns rows := by
  have empty : columns' = [] ↔ columns = [] := by
    rw [← List.length_eq_zero_iff, ← same.length_eq, List.length_eq_zero_iff]
  rw [TableView.tableLines, TableView.tableLines, headerLines_renumber injective same]
  simp only [empty]

end StatusReport
