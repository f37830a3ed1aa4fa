import StatusReport.Proofs.Report.Refusal
import StatusReport.Proofs.Report.Script

/-! # What a run of a table writes

Batches of records are rendered through one table. As long as no formatter refuses, each batch is
written as by a fresh table. The first record with a refusal ends its batch: the header and the rows
before it are written, and nothing of its own row. The error stays, so no later batch is written.

* `RunFailure`: the first refusal in a run.
* `TableView.script_batch`: the batch with the first refusal.
* `run_of_batches`: the output and the error of a run.
-/

namespace StatusReport

open Report (renderAll writtenAlone)

/-- The first record in a run with a refusal in its row, and its leftmost refusal. -/
structure RunFailure (columns : List Column) (formatters : Registry)
    (batches : List (List Record)) where
  before : List (List Record)
  shown : List Record
  record : Record
  later : List Record
  after : List (List Record)
  batches_eq : batches = before ++ (shown ++ record :: later) :: after
  before_shown : ∀ batch ∈ before, ∀ r ∈ batch, Shows columns formatters r
  shown_shown : ∀ r ∈ shown, Shows columns formatters r
  row : RowFailure columns formatters record

namespace RunFailure

variable {columns : List Column} {formatters : Registry} {batches : List (List Record)}

def batch (failure : RunFailure columns formatters batches) : List Record :=
  failure.shown ++ failure.record :: failure.later

end RunFailure

theorem shows_or_first (columns : List Column) (formatters : Registry) (records : List Record) :
    (∀ r ∈ records, Shows columns formatters r) ∨
      ∃ shown r later, records = shown ++ r :: later ∧ (∀ r ∈ shown, Shows columns formatters r) ∧
        Nonempty (RowFailure columns formatters r) := by
  obtain all | ⟨shown, r, later, split, before, here⟩ :=
    all_or_first (Shows columns formatters) records
  · exact .inl all
  · exact .inr ⟨shown, r, later, split, before,
      (shows_or_rowFailure columns formatters r).resolve_left here⟩

theorem shows_or_runFailure (columns : List Column) (formatters : Registry)
    (batches : List (List Record)) :
    (∀ batch ∈ batches, ∀ r ∈ batch, Shows columns formatters r) ∨
      Nonempty (RunFailure columns formatters batches) := by
  obtain all | ⟨before, batch, after, split, earlier, here⟩ :=
    all_or_first (fun batch => ∀ r ∈ batch, Shows columns formatters r) batches
  · exact .inl all
  · obtain ⟨shown, r, later, rfl, shownBefore, ⟨row⟩⟩ :=
      (shows_or_first columns formatters batch).resolve_left here
    exact .inr ⟨⟨before, shown, r, later, after, split, earlier, shownBefore, row⟩⟩

namespace TableView

section Batch

variable {columns : List Column} {formatters : Registry} {view : TableView} {records : List Record}

theorem rows_of_shown (known : ∀ column ∈ columns, Known formatters column.leaf)
    (shown : ∀ r ∈ records, Shows columns formatters r) :
    ∃ rows : List (List String), records.map (row columns formatters) = rows.map .ok := by
  induction records with
  | nil => exact ⟨[], rfl⟩
  | cons r rest ih =>
    obtain ⟨head, tail⟩ := List.forall_mem_cons.1 shown
    obtain ⟨texts, made⟩ := row_of_shows known head
    obtain ⟨rows, others⟩ := ih tail
    exact ⟨texts :: rows, by rw [List.map_cons, made, others, List.map_cons]⟩

theorem ending_script_of_shown (known : ∀ column ∈ view.columns, Known view.formatters column.leaf)
    (shown : ∀ r ∈ records, Shows view.columns view.formatters r) :
    (view.script records).ending = .ok () := by
  by_cases empty : view.columns = []
  · rw [script_of_empty empty]
  · obtain ⟨rows, made⟩ := rows_of_shown known shown
    rw [script_of_rows empty made]

/-- The batch with the first refusal has an error, and writes its header and the rows before. -/
theorem script_batch {batches : List (List Record)}
    (known : ∀ column ∈ view.columns, Known view.formatters column.leaf)
    (failure : RunFailure view.columns view.formatters batches) :
    ∃ rows : List (List String),
      failure.shown.map (row view.columns view.formatters) = rows.map .ok ∧
        view.script failure.batch =
          ⟨headerLines view.columns ++ rows.map cellLine, .error failure.row.error⟩ := by
  obtain ⟨rows, made⟩ := rows_of_shown known failure.shown_shown
  have failed := row_of_failure known failure.row
  exact ⟨rows, made, script_of_failure failure.row.columns_ne_nil made failed failure.later⟩

theorem writtenAlone_of_rows (fresh : view.error = none) {rows : List (List String)}
    {ending : Except ViewError Unit}
    (script : view.script records = ⟨headerLines view.columns ++ rows.map cellLine, ending⟩) :
    writtenAlone view records = gridText (headerCells view.columns ++ rows) := by
  rw [Report.writtenAlone_eq view fresh, ← unlines_header_append]
  exact congrArg (unlines ·.lines) script

theorem writtenAlone_of_empty (fresh : view.error = none) (empty : view.columns = [])
    (records : List Record) : writtenAlone view records = "" := by
  rw [Report.writtenAlone_eq view fresh]
  exact congrArg Script.output (script_of_empty empty records)

theorem script_take_of_error {e : ViewError}
    (known : ∀ column ∈ view.columns, Known view.formatters column.leaf)
    (ended : (view.script records).ending = .error e) :
    ∃ shown r later, records = shown ++ r :: later ∧
      (∀ r ∈ shown, Shows view.columns view.formatters r) ∧
      (∃ failure : RowFailure view.columns view.formatters r, e = failure.error) ∧
      view.script shown = ⟨(view.script records).lines, .ok ()⟩ := by
  obtain all | ⟨shown, r, later, rfl, before, ⟨failure⟩⟩ :=
    shows_or_first view.columns view.formatters records
  · rw [ending_script_of_shown known all] at ended
    cases ended
  · have filled := failure.columns_ne_nil
    obtain ⟨rows, made⟩ := rows_of_shown known before
    have script := script_of_failure filled made (row_of_failure known failure) later
    rw [script] at ended
    refine ⟨shown, r, later, rfl, before, ⟨failure, (Except.error.inj ended).symm⟩, ?_⟩
    rw [script, script_of_rows filled made]

end Batch

theorem described (descriptor : Descriptor) (options : ViewOptions) :
    Report.Described descriptor options (ofDescriptor descriptor options) where
  failed e built := by
    rw [ofDescriptor_error built]
    rfl
  fresh schema built := by
    rw [ofDescriptor_ok built]
    rfl
  refused schema built records e ended := by
    obtain ⟨_, _, _, -, -, ⟨failure, rfl⟩, -⟩ :=
      script_take_of_error (known_ofDescriptor built) ended
    exact ⟨_, _, rfl⟩

end TableView

/-- A run of batches through one table writes each batch as a fresh table writes it alone, through
    the first batch with a refusal. Of that batch the header and the rows before the refused record
    are written. The error is that of the leftmost refusal, and later batches change nothing. A batch
    without a refusal is the header and a row for each record. An error of the schema ends every run
    before it writes, and without a column nothing is written. -/
theorem run_of_batches (descriptor : Descriptor) (options : ViewOptions)
    (batches : List (List Record)) :
    let view := TableView.ofDescriptor descriptor options
    let run := renderAll view ({} : Transcript) batches
    (∀ e, Schema.build descriptor options.formatters = .error e →
      run.2.received = "" ∧ run.1.error = some (.schema e) ∧ run.1.result = .error (.schema e)) ∧
    (∀ schema, Schema.build descriptor options.formatters = .ok schema →
      ((∀ batch ∈ batches, ∀ r ∈ batch, Shows view.columns options.formatters r) →
        run.2.received = String.join (batches.map (writtenAlone view)) ∧
        run.1.error = none ∧ run.1.result = .ok ()) ∧
      (∀ failure : RunFailure view.columns options.formatters batches,
        run.2.received = String.join ((failure.before ++ [failure.batch]).map (writtenAlone view)) ∧
        (∃ rows : List (List String),
          failure.shown.map (TableView.row view.columns options.formatters) = rows.map .ok ∧
          writtenAlone view failure.batch = gridText (headerCells view.columns ++ rows)) ∧
        run.1.error = some failure.row.error ∧ run.1.result = .error failure.row.error ∧
        run = renderAll view ({} : Transcript) (failure.before ++ [failure.batch])) ∧
      ((∀ batch ∈ batches, ∀ r ∈ batch, Shows view.columns options.formatters r) ∨
        Nonempty (RunFailure view.columns options.formatters batches)) ∧
      (∀ batch, (∀ r ∈ batch, Shows view.columns options.formatters r) → view.columns ≠ [] →
        ∃ rows : List (List String),
          batch.map (TableView.row view.columns options.formatters) = rows.map .ok ∧
          writtenAlone view batch = gridText (headerCells view.columns ++ rows)) ∧
      (view.columns = [] →
        (∀ batch, writtenAlone view batch = "") ∧ run.2.received = "" ∧ run.1.error = none)) := by
  intro view run
  refine ⟨fun e built => ?_, fun schema built => ?_⟩
  · -- The error of the schema is there before the first batch.
    obtain ⟨kept, error, result⟩ :=
      (TableView.described descriptor options).renderAll_of_unbuilt built ({} : Transcript) batches
    exact ⟨congrArg Transcript.received kept, error, result⟩
  · have made := TableView.ofDescriptor_ok built
    have fresh : view.error = none := by simp only [view, made]
    have named : view.formatters = options.formatters := by simp only [view, made]
    have known := TableView.known_ofDescriptor built
    rw [← named]
    have complete (shown : ∀ batch ∈ batches, ∀ r ∈ batch, Shows view.columns view.formatters r) :
        run = (view, ⟨String.join (batches.map (writtenAlone view)), none⟩) :=
      Report.renderAll_of_ok view fresh fun batch member =>
        TableView.ending_script_of_shown known (shown batch member)
    refine ⟨fun shown => ?_, fun failure => ?_, shows_or_runFailure _ _ batches,
      fun batch shown filled => ?_, fun empty => ?_⟩
    · rw [complete shown]
      exact ⟨rfl, fresh, Report.result_of_fresh view fresh⟩
    · obtain ⟨rows, rowsMade, script⟩ := TableView.script_batch known failure
      have before : ∀ batch ∈ failure.before, (view.script batch).ending = .ok () :=
        fun batch member => TableView.ending_script_of_shown known (failure.before_shown batch member)
      have failed : (view.script failure.batch).ending = .error failure.row.error := by rw [script]
      -- The run and its part through the batch with the refusal are the same.
      have stopped := Report.renderAll_of_failure view fresh before failed
      have split : run = renderAll view ({} : Transcript)
          (failure.before ++ failure.batch :: failure.after) :=
        congrArg (renderAll view _) failure.batches_eq
      rw [split, stopped, stopped]
      exact ⟨rfl, ⟨rows, rowsMade, TableView.writtenAlone_of_rows fresh script⟩, rfl, rfl, rfl⟩
    · obtain ⟨rows, rowsMade⟩ := TableView.rows_of_shown known shown
      exact ⟨rows, rowsMade,
        TableView.writtenAlone_of_rows fresh (TableView.script_of_rows filled rowsMade)⟩
    · -- Without a column there is no formatter that could refuse.
      have nothing := TableView.writtenAlone_of_empty fresh empty
      have shown : ∀ batch ∈ batches, ∀ r ∈ batch, Shows view.columns view.formatters r := by
        intro batch _ r _ column hc
        rw [empty] at hc
        exact absurd hc List.not_mem_nil
      have lines : (batches.map view.script).flatMap Script.lines = [] := by
        simp [TableView.script_of_empty empty]
      rw [complete shown, Report.join_writtenAlone view fresh]
      exact ⟨nothing, congrArg unlines lines, fresh⟩

/-- The second of three batches has a job whose memory is refused, so of that batch there are the
    header and the row of the first job, and nothing of the third batch. -/
theorem run_of_batches_jobs :
    let view := TableView.ofDescriptor Sample.jobs Sample.options
    let good := Sample.job "a" (.int 1536)
    let bad := Sample.job "b" (.str "?")
    let run := renderAll view ({} : Transcript) [[good], [good, bad, good], [good]]
    run.1.error = some (.format "usage.memory" (.notANumber Formatter.byteSizeId .string)) ∧
      writtenAlone view [good, bad, good] = "\tUsage\nNAME\tMEM\n----\t---\na\t1.5 KiB\n" ∧
      run.2.received =
        "\tUsage\nNAME\tMEM\n----\t---\na\t1.5 KiB\n\tUsage\nNAME\tMEM\n----\t---\na\t1.5 KiB\n" := by
  intro view good bad run
  have row : TableView.row view.columns Sample.options.formatters good = .ok ["a", "1.5 KiB"] := by
    rfl
  have left : TableView.row (view.columns.take 1) Sample.options.formatters bad = .ok ["b"] := by
    rfl
  have shown := TableView.shows_of_row row
  let failure : RowFailure view.columns Sample.options.formatters bad :=
    { left := view.columns.take 1
      column := ⟨⟨4, [], "memory", ["usage", "memory"], "MEM", "", some Formatter.byteSizeId⟩,
        some ⟨2, "Usage"⟩⟩
      right := []
      cause := .notANumber Formatter.byteSizeId .string
      columns_eq := rfl
      shown := TableView.shows_of_row left
      refused := ⟨_, .byteSize, .str "?", rfl, rfl, rfl, rfl⟩ }
  obtain ⟨-, failed, -⟩ := (run_of_batches Sample.jobs Sample.options
    [[good], [good, bad, good], [good]]).2 _ rfl
  obtain ⟨received, ⟨rows, made, written⟩, error, -⟩ := failed
    { before := [[good]], shown := [good], record := bad, later := [good], after := [[good]]
      batches_eq := rfl
      before_shown := by simpa using shown
      shown_shown := by simpa using shown
      row := failure }
  obtain rfl : [["a", "1.5 KiB"]] = rows := by
    rw [List.map_singleton, row] at made
    exact (List.map_inj_right fun _ _ => Except.ok.inj).1 made
  exact ⟨error, written.trans (by rfl), received.trans (by rfl)⟩

end StatusReport
