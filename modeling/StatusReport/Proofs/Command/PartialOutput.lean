import Mathlib.Control.Monad.Basic
import StatusReport.Proofs.Command.Delivery
import StatusReport.Proofs.Report.ListingCut

/-! # The output of commands that fail

A command reads all that it needs before it writes, so an error before its report leaves the output
empty. If a formatter refuses, the output is that of a shorter report, which does not come to the
refusal: a table of the records before it, or a listing of the fields before it.

* `DetailView.script_firstFields_of_error`: the listing of the fields before a refusal.
* `Command.delivered_eq_error`: a report that is delivered with an error.
* `Command.received_of_other_error`: an error that is no refusal.
* `Command.Subject.refused`: what a refusal leaves of a report.
* `Command.TableStopped`, `Command.DetailStopped`: a report that a refusal ended.
* `Command.failing_output`: the output of a command that fails.
-/

namespace StatusReport

theorem DetailView.script_firstFields_of_error {descriptor : Descriptor} {options : ViewOptions}
    {schema : Schema} {r : Record} {e : ViewError}
    (built : Schema.build descriptor options.formatters = .ok schema)
    (ended : ((ofDescriptor descriptor options).script r).ending = .error e) :
    ∃ failure : ListingFailure (ofDescriptor descriptor options) r, e = failure.row.error ∧
      Report.call (ofDescriptor (descriptor.firstFields failure.before.length) options) r =
        ⟨((ofDescriptor descriptor options).script r).lines, .ok ()⟩ := by
  have known := allKnown_of_build built
  obtain ⟨failure, rfl⟩ := exists_failure_of_error known ended
  obtain ⟨lines, before, script⟩ := script_of_failure known failure
  obtain ⟨fresh, cut⟩ := script_firstFields built failure.before.length r
  rw [failure.roots_eq, List.take_left, before] at cut
  refine ⟨failure, rfl, (Report.call_of_fresh _ fresh r).trans ?_⟩
  rw [script]
  exact cut

namespace Command

/-! ## Commands that fail -/

/-- A table that a refusal ended with an error and an output: the first item with a refusal in its
    row, and the same output where the items before it are all there is. -/
structure TableStopped (env : Environment) (settings : Settings) (source : Source)
    (visibility : VisibilityRequest) (out : Transcript) (e : ViewError) where
  layout : Layout
  document : Data
  options : ViewOptions
  before : List Data
  item : Data
  after : List Data
  reads : Reads env settings source visibility layout document options
  rows : Document.rows document = .ok (before ++ item :: after)
  before_shown : ∀ earlier ∈ before,
    Shows (TableView.ofDescriptor layout.descriptor options).columns
      (TableView.ofDescriptor layout.descriptor options).formatters (.ofData earlier)
  failure : RowFailure (TableView.ofDescriptor layout.descriptor options).columns
    (TableView.ofDescriptor layout.descriptor options).formatters (.ofData item)
  error_eq : failure.error = e
  report : runTable settings (.ofDescriptor layout.descriptor options) (before.map .ofData)
    ({} : Transcript) = (out, .ok ())
  again : ∀ env' source', Layout.load env' source'.layout = .ok layout →
    readDocument env' source'.input = .ok (.list before) →
    run env' settings (.table source' visibility) ({} : Transcript) = (out, .ok ())

/-- A listing that a refusal ended with an error and an output: the first field with a refusal below
    it, and the same output with a layout of the fields before it. -/
structure DetailStopped (env : Environment) (settings : Settings) (source : Source)
    (visibility : VisibilityRequest) (index : Nat) (out : Transcript) (e : ViewError) where
  layout : Layout
  document : Data
  options : ViewOptions
  item : Data
  reads : Reads env settings source visibility layout document options
  record : Document.record index document = .ok item
  failure : ListingFailure (.ofDescriptor layout.descriptor options) (.ofData item)
  error_eq : failure.row.error = e
  /-- The node with the refusal is that of the layout field at its place. -/
  key_eq : (layout.fields[failure.before.length]?).map (·.key) = some failure.node.label.key
  report : runDetail settings
    (.ofDescriptor (layout.firstFields failure.before.length).descriptor options) (.ofData item)
    ({} : Transcript) = (out, .ok ())
  again : ∀ env' source',
    Layout.load env' source'.layout = .ok (layout.firstFields failure.before.length) →
    readDocument env' source'.input = .ok document →
    run env' settings (.detail source' visibility index) ({} : Transcript) = (out, .ok ())

section Failing

variable {env : Environment} {settings : Settings} {out : Transcript}

/-- A report delivered with an error either has no schema and writes nothing, or was ended by a
    formatter and writes the lines before the refusal. -/
theorem delivered_eq_error {ν ι : Type} [Report ν ι] {view : ν} {input : ι}
    {descriptor : Descriptor} {options : ViewOptions}
    (described : Report.Described descriptor options view) {e : RunError}
    (failed : delivered settings (Report.call view input) = (out, .error e)) :
    (out.received = "" ∧ ∃ cause, e = .view (.schema cause)) ∨
      ∃ schema selector cause, Schema.build descriptor options.formatters = .ok schema ∧
        (Report.script view input).ending = .error (.format selector cause) ∧
        e = .view (.format selector cause) ∧
        delivered settings ⟨(Report.script view input).lines, .ok ()⟩ = (out, .ok ()) := by
  cases built : Schema.build descriptor options.formatters with
  | error cause =>
    rw [described.call_of_error built, delivered_of_error] at failed
    cases failed
    exact .inl ⟨rfl, cause, rfl⟩
  | ok schema =>
    rw [described.call_of_build built] at failed
    obtain ⟨_, ended, rfl⟩ := liftError_eq_error_iff.1 (congrArg Prod.snd failed)
    obtain ⟨selector, cause, rfl⟩ := described.refused schema built input _ ended
    have received : (delivered settings (Report.script view input)).1 = out :=
      congrArg Prod.fst failed
    refine .inr ⟨schema, selector, cause, rfl, ended, rfl, ?_⟩
    rw [← received]
    rfl

namespace Subject

variable {α ν ι : Type} [Report ν ι] [Report.On ν (TabAligner Transcript)] {subject : Subject α ν}
  {source : Source} {visibility : VisibilityRequest}

theorem received_of_other_error {e : RunError}
    (failed : subject.run env settings source visibility ({} : Transcript) = (out, .error e))
    (other : ∀ selector cause, e ≠ .view (.format selector cause)) : out.received = "" := by
  obtain ⟨rfl, -⟩ | ⟨layout, _, options, _, -, -, delivered⟩ := run_cases failed
  · rfl
  · obtain ⟨empty, -⟩ | ⟨_, selector, cause, -, -, refused, -⟩ :=
      delivered_eq_error (subject.described layout options) delivered
    · exact empty
    · exact absurd refused (other selector cause)

/-- A command that a refusal ends has a schema, and has written the lines before the refusal. -/
theorem refused {selector : String} {cause : FormatError}
    (failed : subject.run env settings source visibility ({} : Transcript) =
      (out, .error (.view (.format selector cause)))) :
    ∃ layout document options selected schema,
      Reads env settings source visibility layout document options ∧
      subject.select document = .ok selected ∧
      Schema.build layout.descriptor options.formatters = .ok schema ∧
      (Report.script (subject.view layout options) (subject.input selected)).ending =
        .error (.format selector cause) ∧
      delivered settings
        ⟨(Report.script (subject.view layout options) (subject.input selected)).lines, .ok ()⟩ =
          (out, .ok ()) := by
  obtain ⟨-, lacks⟩ | ⟨layout, document, options, selected, reads, found, failed⟩ :=
    run_cases failed
  · exact absurd rfl (lacks.ne_view _)
  · obtain ⟨-, _, other⟩ | ⟨schema, _, _, built, ended, same, passed⟩ :=
      delivered_eq_error (subject.described layout options) failed
    · cases other
    · cases same
      exact ⟨layout, document, options, selected, schema, reads, found, built, ended, passed⟩

end Subject

theorem received_of_other_error {command : Command} {e : RunError}
    (failed : run env settings command ({} : Transcript) = (out, .error e))
    (other : ∀ selector cause, e ≠ .view (.format selector cause)) : out.received = "" := by
  cases command with
  | table source visibility =>
    rw [run_table] at failed
    exact Subject.received_of_other_error failed other
  | detail source visibility index =>
    rw [run_detail] at failed
    exact Subject.received_of_other_error failed other
  | check path visibility =>
    rw [run] at failed
    cases prepared : prepareCheck env settings path visibility with
    | error cause =>
      rw [prepared] at failed
      cases failed
      rfl
    | ok made =>
      rw [prepared] at failed
      have ended := congrArg Prod.snd failed
      rw [runCheck_ok] at ended
      cases ended

theorem table_refused {source : Source} {visibility : VisibilityRequest} {selector : String}
    {cause : FormatError}
    (failed : run env settings (.table source visibility) ({} : Transcript) =
      (out, .error (.view (.format selector cause)))) :
    Nonempty (TableStopped env settings source visibility out (.format selector cause)) := by
  rw [run_table] at failed
  obtain ⟨layout, document, options, items, schema, reads, rows, built, ended, passed⟩ :=
    Subject.refused failed
  obtain ⟨shown, r, later, split, earlier, ⟨failure, error⟩, cut⟩ :=
    TableView.script_take_of_error (TableView.known_ofDescriptor built) ended
  -- The records before the refusal come from the items before it.
  obtain ⟨before, rest, rfl, rfl, tail⟩ := List.map_eq_append_iff.1 split
  obtain ⟨item, after, rfl, rfl, rfl⟩ := List.map_eq_cons_iff.1 tail
  have report : delivered settings
      (Report.call (Subject.table.view layout options) (Subject.table.input before)) =
        (out, .ok ()) := by
    rw [(Subject.table.described layout options).call_of_build built]
    exact (congrArg (delivered settings) cut).trans passed
  refine ⟨{ layout, document, options, before, item, after, reads, rows, failure
            before_shown := fun i hi => earlier _ (List.mem_map_of_mem hi)
            error_eq := error.symm
            report := (deliver_render settings _ _).trans report
            again := fun env' source' loaded read => ?_ }⟩
  rw [run_table, Subject.run_of_reads ⟨loaded, read, reads.options⟩ rfl]
  exact report

theorem detail_refused {source : Source} {visibility : VisibilityRequest} {index : Nat}
    {selector : String} {cause : FormatError}
    (failed : run env settings (.detail source visibility index) ({} : Transcript) =
      (out, .error (.view (.format selector cause)))) :
    Nonempty (DetailStopped env settings source visibility index out (.format selector cause)) := by
  rw [run_detail] at failed
  obtain ⟨layout, document, options, item, schema, reads, record, built, ended, passed⟩ :=
    Subject.refused failed
  obtain ⟨failure, error, cut⟩ := DetailView.script_firstFields_of_error built ended
  rw [← Layout.descriptor_firstFields] at cut
  have report : delivered settings
      (Report.call ((Subject.detail index).view (layout.firstFields failure.before.length) options)
        ((Subject.detail index).input item)) = (out, .ok ()) :=
    (congrArg (delivered settings) cut).trans passed
  refine ⟨{ layout, document, options, item, reads, record, failure
            error_eq := error.symm
            key_eq := failure.key_eq built
            report := (deliver_render settings _ _).trans report
            again := fun env' source' loaded read => ?_ }⟩
  rw [run_detail, Subject.run_of_reads ⟨loaded, read, reads.options⟩ record]
  exact report

end Failing

/-- The output of a command that fails is empty unless a formatter refused. Then it is that of the
    same command on the records before the first one with a refusal, or with a layout cut before
    the first field with one. -/
theorem failing_output (env : Environment) (settings : Settings) :
    (∀ command out e, run env settings command ({} : Transcript) = (out, .error e) →
      (∀ selector cause, e ≠ .view (.format selector cause)) → out.received = "") ∧
    (∀ source visibility out selector cause,
      run env settings (.table source visibility) ({} : Transcript) =
        (out, .error (.view (.format selector cause))) →
      Nonempty (TableStopped env settings source visibility out (.format selector cause))) ∧
    (∀ source visibility index out selector cause,
      run env settings (.detail source visibility index) ({} : Transcript) =
        (out, .error (.view (.format selector cause))) →
      Nonempty
        (DetailStopped env settings source visibility index out (.format selector cause))) :=
  ⟨fun _ _ _ => received_of_other_error, fun _ _ _ _ _ => table_refused,
    fun _ _ _ _ _ _ => detail_refused⟩

/-- A layout of two fields, and on the standard input two records, the second of which is refused
    its size. -/
def sampleEnvironment : Environment where
  file path :=
    if path = "file.toml" then
      .ok (Text.Utf8.bytesOf
        "[[fields]]\nkey = \"name\"\n[[fields]]\nkey = \"size\"\nformat = \"byte-size\"\n")
    else .error .notFound
  input := Text.Utf8.bytesOf
    "[\x7b\"name\": \"a\", \"size\": 1536\x7d, \x7b\"name\": \"b\", \"size\": \"?\"\x7d]"

/-- The first record is written, and so it is in a table of its own. -/
theorem failing_output_sample :
    let table := Command.table ⟨"file.toml", none⟩ {}
    let out : Transcript := ⟨"name  size\n----  ----\na     1.5 KiB\n", none⟩
    run sampleEnvironment {} table ({} : Transcript) =
        (out, .error (.view (.format "size" (.notANumber Formatter.byteSizeId .string)))) ∧
      ∃ layout options, ∃ before : List Data, Layout.load sampleEnvironment "file.toml" = .ok layout ∧
        runTable {} (.ofDescriptor layout.descriptor options) (before.map .ofData)
          ({} : Transcript) = (out, .ok ()) := by
  have failed : run sampleEnvironment {} (.table ⟨"file.toml", none⟩ {}) ({} : Transcript) =
      (⟨"name  size\n----  ----\na     1.5 KiB\n", none⟩,
        .error (.view (.format "size" (.notANumber Formatter.byteSizeId .string)))) := by
    decide +kernel
  obtain ⟨stopped⟩ := (failing_output sampleEnvironment {}).2.1 _ _ _ _ _ failed
  exact ⟨failed, stopped.layout, stopped.options, stopped.before, stopped.reads.layout,
    stopped.report⟩

end Command

end StatusReport
