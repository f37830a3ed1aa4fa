import StatusReport.Proofs.Report.ListingCut

/-! # What a run of a listing writes

Records are rendered one after the other through one listing. As long as no formatter refuses the
value of a visible leaf, each record is written as by a fresh listing. The first record with a
refusal is written through the last top-level field before it: the lines of a field are made before
any of them is written, so those of the field with the refusal are dropped together. The error
stays, and no later record is written.

* `DetailView.shownLeaves`: the visible leaves of a listing, depth first.
* `ListingRunFailure`: the first record with a refusal, and the first refusal in it.
* `DetailView.render_firstFields_of_failure`: the record with the refusal, as written by a shorter
  listing.
* `DetailView.run_of_records`: the output and the error of a run.
-/

namespace StatusReport

open Report (renderAll writtenAlone)

theorem Node.leavesOf_eq_flatMap (nodes : List Node) : leavesOf nodes = nodes.flatMap leaves := by
  induction nodes with
  | nil => rfl
  | cons node rest ih => rw [leavesOf, ih, List.flatMap_cons]

namespace DetailView

def shownLeaves (view : DetailView) : List Label :=
  (Node.leavesOf view.roots).filter (view.visibility.isShown ·.id)

def ShowsAll (view : DetailView) (r : Record) : Prop :=
  ∀ leaf ∈ view.shownLeaves, ∀ cause, ¬ Refuses view.formatters r leaf cause

theorem shownLeaves_eq (view : DetailView) :
    view.shownLeaves =
      view.roots.flatMap fun node => (columnsOf view.visibility none node).map (·.leaf) := by
  rw [shownLeaves, Node.leavesOf_eq_flatMap, List.filter_flatMap]
  exact congrArg (view.roots.flatMap ·)
    (funext fun node => (map_leaf_columnsOf view.visibility none node).symm)

theorem shows_iff (columns : List Column) (formatters : Registry) (r : Record) :
    Shows columns formatters r ↔
      ∀ leaf ∈ columns.map (·.leaf), ∀ cause, ¬ Refuses formatters r leaf cause := by
  rw [List.forall_mem_map]
  rfl

theorem showsAll_iff {view : DetailView} {r : Record} :
    view.ShowsAll r ↔
      ∀ node ∈ view.roots, Shows (columnsOf view.visibility none node) view.formatters r := by
  rw [ShowsAll, shownLeaves_eq, List.forall_mem_flatMap]
  exact forall₂_congr fun node _ => (shows_iff _ view.formatters r).symm

end DetailView

/-- The leaf with the first refusal is the first visible leaf that is refused. -/
theorem ListingFailure.shownLeaves_split {view : DetailView} {r : Record}
    (failure : ListingFailure view r) :
    ∃ earlier later, view.shownLeaves = earlier ++ failure.row.column.leaf :: later ∧
      ∀ leaf ∈ earlier, ∀ cause, ¬ Refuses view.formatters r leaf cause := by
  have inside := congrArg (List.map (·.leaf)) failure.row.columns_eq
  rw [List.map_append, List.map_cons] at inside
  have split := DetailView.shownLeaves_eq view
  rw [failure.roots_eq, List.flatMap_append, List.flatMap_cons, inside, List.append_assoc,
    List.cons_append, ← List.append_assoc] at split
  refine ⟨_, _, split, ?_⟩
  rw [List.forall_mem_append, List.forall_mem_flatMap]
  exact ⟨fun node member => (DetailView.shows_iff _ _ r).1 (failure.before_shown node member),
    (DetailView.shows_iff _ _ r).1 failure.row.shown⟩

/-- The first record in a run with a refusal, and the first refusal in it. -/
structure ListingRunFailure (view : DetailView) (records : List Record) where
  before : List Record
  record : Record
  after : List Record
  records_eq : records = before ++ record :: after
  before_shown : ∀ r ∈ before, view.ShowsAll r
  refusal : ListingFailure view record

namespace ListingRunFailure

variable {view : DetailView} {records : List Record}

def leaf (failure : ListingRunFailure view records) : Label := failure.refusal.row.column.leaf

def cause (failure : ListingRunFailure view records) : FormatError := failure.refusal.row.cause

def fieldsBefore (failure : ListingRunFailure view records) : Nat := failure.refusal.before.length

end ListingRunFailure

namespace DetailView

theorem showsAll_or_failure (view : DetailView) (records : List Record) :
    (∀ r ∈ records, view.ShowsAll r) ∨ Nonempty (ListingRunFailure view records) := by
  obtain all | ⟨before, record, after, split, earlier, here⟩ := all_or_first view.ShowsAll records
  · exact .inl all
  · obtain ⟨refusal⟩ := (shows_or_failure view record).resolve_left (here ∘ showsAll_iff.2)
    exact .inr ⟨⟨before, record, after, split, earlier, refusal⟩⟩

/-! ## Runs -/

/-- The record with the refusal is written as by the listing of the fields before the refusal, which
    has none itself. -/
theorem render_firstFields_of_failure {descriptor : Descriptor} {options : ViewOptions}
    {schema : Schema} {r : Record}
    (built : Schema.build descriptor options.formatters = .ok schema)
    (failure : ListingFailure (ofDescriptor descriptor options) r) :
    let cut := ofDescriptor (descriptor.firstFields failure.before.length) options
    (cut.render ({} : Transcript) r).1.error = none ∧
      writtenAlone cut r = writtenAlone (ofDescriptor descriptor options) r := by
  intro cut
  have fresh : (ofDescriptor descriptor options).error = none := by rw [ofDescriptor_ok built]
  obtain ⟨cutFresh, cutScript⟩ := script_firstFields built failure.before.length r
  obtain ⟨lines, before, script⟩ := script_of_failure (allKnown_of_build built) failure
  rw [failure.roots_eq, List.take_left, before] at cutScript
  constructor
  · rw [show cut.render _ r = _ from Report.render_keeps cut Transcript.keeps cutFresh "" r]
    exact congrArg Script.error? cutScript
  · rw [Report.writtenAlone_eq cut cutFresh, Report.writtenAlone_eq _ fresh]
    exact congrArg unlines ((congrArg Script.lines cutScript).trans (congrArg Script.lines script).symm)

/-- A run of records through one listing writes each record as a fresh listing does, up to the first
    record with a refusal at a visible leaf. Of that record it writes what the listing of the
    top-level fields before the one with the refused leaf does. The leaf is the first one that is
    refused, depth first, and its refusal under its selector is the error, which stays, so that later
    records change nothing. An error of the schema ends every run before it writes. -/
theorem run_of_records (descriptor : Descriptor) (options : ViewOptions) (records : List Record) :
    let view := ofDescriptor descriptor options
    let run := renderAll view ({} : Transcript) records
    (∀ e, Schema.build descriptor options.formatters = .error e →
      run.2.received = "" ∧ run.1.error = some (.schema e) ∧ run.1.result = .error (.schema e)) ∧
    (∀ schema, Schema.build descriptor options.formatters = .ok schema →
      ((∀ r ∈ records, view.ShowsAll r) →
        run.2.received = String.join (records.map (writtenAlone view)) ∧
        run.1.error = none ∧ run.1.result = .ok ()) ∧
      (∀ failure : ListingRunFailure view records,
        let cut := ofDescriptor (descriptor.firstFields failure.fieldsBefore) options
        run.2.received = String.join (failure.before.map (writtenAlone view)) ++
          writtenAlone cut failure.record ∧
        (cut.render ({} : Transcript) failure.record).1.error = none ∧
        (∃ field, view.roots[failure.fieldsBefore]? = some field ∧ failure.leaf ∈ field.leaves) ∧
        (∃ earlier later, view.shownLeaves = earlier ++ failure.leaf :: later ∧
          ∀ leaf ∈ earlier, ∀ cause, ¬ Refuses view.formatters failure.record leaf cause) ∧
        Refuses view.formatters failure.record failure.leaf failure.cause ∧
        run.1.error = some (.format failure.leaf.selectorPath failure.cause) ∧
        run.1.result = .error (.format failure.leaf.selectorPath failure.cause) ∧
        run = renderAll view ({} : Transcript) (failure.before ++ [failure.record])) ∧
      ((∀ r ∈ records, view.ShowsAll r) ∨ Nonempty (ListingRunFailure view records))) := by
  intro view run
  refine ⟨fun e built => ?_, fun schema built => ?_⟩
  · obtain ⟨kept, error, result⟩ :=
      (described descriptor options).renderAll_of_unbuilt built ({} : Transcript) records
    exact ⟨congrArg Transcript.received kept, error, result⟩
  · have fresh : view.error = none := by simp only [view, ofDescriptor_ok built]
    have known : view.AllKnown := allKnown_of_build built
    have ended {r : Record} (shown : view.ShowsAll r) : (view.script r).ending = .ok () :=
      ending_script_of_shows known (showsAll_iff.1 shown)
    refine ⟨fun shown => ?_, fun failure => ?_, view.showsAll_or_failure records⟩
    · have complete : run = _ :=
        Report.renderAll_of_ok view fresh fun r member => ended (shown r member)
      rw [complete]
      exact ⟨rfl, fresh, Report.result_of_fresh view fresh⟩
    · have before : ∀ r ∈ failure.before, (view.script r).ending = .ok () :=
        fun r member => ended (failure.before_shown r member)
      obtain ⟨lines, -, script⟩ := script_of_failure known failure.refusal
      have refused : (view.script failure.record).ending =
          .error (.format failure.leaf.selectorPath failure.cause) := by
        rw [script]
        rfl
      -- The run and its part through the record with the refusal are the same.
      have stopped := Report.renderAll_of_failure view fresh before refused
      have split : run = renderAll view ({} : Transcript)
          (failure.before ++ failure.record :: failure.after) :=
        congrArg (renderAll view _) failure.records_eq
      obtain ⟨cutEnded, cutWritten⟩ := render_firstFields_of_failure built failure.refusal
      have field : view.roots[failure.fieldsBefore]? = some failure.refusal.node := by
        rw [failure.refusal.roots_eq, ListingRunFailure.fieldsBefore]
        simp
      have inside : failure.leaf ∈ failure.refusal.node.leaves :=
        (mem_columnsOf failure.refusal.row.column_mem).1
      have written : String.join ((failure.before ++ [failure.record]).map (writtenAlone view)) =
          String.join (failure.before.map (writtenAlone view)) ++
            writtenAlone view failure.record := by
        simp
      rw [split, stopped, stopped, written]
      exact ⟨congrArg (String.join (failure.before.map (writtenAlone view)) ++ ·) cutWritten.symm,
        cutEnded, ⟨_, field, inside⟩, failure.refusal.shownLeaves_split,
        failure.refusal.row.refused, rfl, rfl, rfl⟩

/-- The second of three jobs has a time, but its memory beside it is refused. -/
theorem run_of_records_jobs :
    let view := ofDescriptor Sample.jobs {}
    let good := Sample.job "a" (.int 1536)
    let bad : Record := { field := fun key => if key = "name" then .str "b" else .record .str "" }
    let run := renderAll view ({} : Transcript) [good, bad, good]
    run.1.error = some (.format "usage.memory" (.notANumber Formatter.byteSizeId .string)) ∧
      run.2.received = "NAME:\ta\nUsage:\n  MEM:\t1.5 KiB\nNAME:\tb\n" := by
  intro view good bad run
  have nameGood : TableView.row [⟨Sample.nameLeaf, none⟩] view.formatters good = .ok ["a"] := by rfl
  have usageGood : TableView.row (columnsOf view.visibility none Sample.usageGroup) view.formatters
    good = .ok ["", "1.5 KiB"] := by rfl
  have nameBad : TableView.row [⟨Sample.nameLeaf, none⟩] view.formatters bad = .ok ["b"] := by rfl
  have timeBad : TableView.row [⟨Sample.timeLeaf, some ⟨2, "Usage"⟩⟩] view.formatters bad =
    .ok ["time"] := by rfl
  have shown : view.ShowsAll good := showsAll_iff.2
    (List.forall_mem_cons.2 ⟨TableView.shows_of_row nameGood,
      List.forall_mem_singleton.2 (TableView.shows_of_row usageGood)⟩)
  let refusal : ListingFailure view bad :=
    { before := [.leaf Sample.nameLeaf]
      node := Sample.usageGroup
      after := []
      roots_eq := rfl
      before_shown := List.forall_mem_singleton.2 (TableView.shows_of_row nameBad)
      row :=
        { left := [⟨Sample.timeLeaf, some ⟨2, "Usage"⟩⟩]
          column := ⟨Sample.memoryLeaf, some ⟨2, "Usage"⟩⟩
          right := []
          cause := .notANumber Formatter.byteSizeId .string
          columns_eq := rfl
          shown := TableView.shows_of_row timeBad
          refused := ⟨_, .byteSize, .str "memory", rfl, rfl, rfl, rfl⟩ } }
  obtain ⟨-, failed, -⟩ := (run_of_records Sample.jobs {} [good, bad, good]).2 _ Sample.build_jobs
  obtain ⟨received, -, -, -, -, error, -⟩ := failed
    { before := [good], record := bad, after := [good], records_eq := rfl
      before_shown := List.forall_mem_singleton.2 shown
      refusal := refusal }
  exact ⟨error, received.trans (by rfl)⟩

end DetailView

end StatusReport
