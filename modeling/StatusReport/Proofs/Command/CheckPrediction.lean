import StatusReport.Proofs.Command.PartialOutput
import StatusReport.Proofs.Report.Selection

/-! # What a check says about reports

A check reads the settings and the layout as reports do, and builds the same view, but writes no
record. So it ends as a table without a record does, and once it succeeds no report can end in an
error of the settings, the layout or the schema: all that is left is the document, the formatters
and the output. What it lists are the columns of the tables.

* `Command.setup`: what checks and reports have in common.
* `RunError.OfSetup`: the errors that a check rules out.
* `Command.Checked`: what a check that succeeds has read and written.
* `Command.check_predicts_reports`: a check against the reports with its settings and its layout.
-/

namespace StatusReport

/-- An error of the settings, the layout or the schema. -/
inductive RunError.OfSetup : RunError → Prop where
  | settings (cause : SettingsError) : OfSetup (.settings cause)
  | layout (cause : LayoutError) : OfSetup (.layout cause)
  | schema (cause : SchemaError) : OfSetup (.view (.schema cause))

theorem RunError.OfInput.not_ofSetup {e : RunError} (h : e.OfInput) : ¬ e.OfSetup := by
  cases h <;> nofun

/-! ## Reports after their schema -/

theorem TableView.ending_call_nil (view : TableView) :
    (Report.call view ([] : List Record)).ending = view.result := by
  cases ended : view.error with
  | some e => rw [Report.call_of_error view ended, ← Report.result_of_error view ended]; rfl
  | none =>
    have ending : (view.script []).ending = .ok () := by
      rw [script]
      cases view.columns.isEmpty <;> rfl
    rw [Report.call_of_fresh view ended]
    exact ending.trans (Report.result_of_fresh view ended).symm

namespace Command

/-! ## What checks and reports have in common -/

/-- What comes of a layout and options: the errors of both, and that of the schema. -/
def setup (layout : Except LayoutError Layout) (options : Except SettingsError ViewOptions) :
    Except RunError Unit := do
  let layout ← liftError .layout layout
  let options ← liftError .settings options
  liftError .view (TableView.ofDescriptor layout.descriptor options).result

theorem setup_eq_ok_iff {layout : Except LayoutError Layout}
    {options : Except SettingsError ViewOptions} :
    setup layout options = .ok () ↔
      ∃ l o schema, layout = .ok l ∧ options = .ok o ∧
        Schema.build l.descriptor o.formatters = .ok schema := by
  simp only [setup, bind_eq_ok_iff, liftError_eq_ok_iff]
  constructor
  · rintro ⟨l, loaded, o, made, ended⟩
    cases built : Schema.build l.descriptor o.formatters with
    | error e =>
      rw [TableView.ofDescriptor_error built] at ended
      cases ended
    | ok schema => exact ⟨l, o, schema, loaded, made, built⟩
  · rintro ⟨l, o, schema, loaded, made, built⟩
    exact ⟨l, loaded, o, made, by rw [TableView.ofDescriptor_ok built]; rfl⟩

section Ends

variable {env : Environment} {settings : Settings} {source : Source} {path : String}
  {visibility : VisibilityRequest}

/-- A check ends as its setup does. -/
theorem ending_check :
    (run env settings (.check path visibility) ({} : Transcript)).2 =
      setup (Layout.load env path) (settings.options visibility) := by
  rw [run, prepareCheck, setup]
  cases Layout.load env path with
  | error e => rfl
  | ok layout =>
    cases settings.options visibility with
    | error e => rfl
    | ok options =>
      -- From a view without an error on, nothing can end the check.
      cases ended : (TableView.ofDescriptor layout.descriptor options).result with
      | error e => simp [liftError, bind, Except.bind, ended]
      | ok _ => simp [liftError, bind, Except.bind, ended, pure, Except.pure, runCheck_ok]

/-- A table of an empty document ends as its setup does. -/
theorem ending_table_nil (read : readDocument env source.input = .ok (.list [])) :
    (run env settings (.table source visibility) ({} : Transcript)).2 =
      setup (Layout.load env source.layout) (settings.options visibility) := by
  rw [run_table]
  cases loaded : Layout.load env source.layout with
  | error e =>
    rw [Subject.run, prepare, loaded]
    rfl
  | ok layout =>
    cases made : settings.options visibility with
    | error e =>
      rw [Subject.run, prepare, loaded, read, made]
      rfl
    | ok options =>
      have reads : Reads env settings source visibility layout (.list []) options :=
        ⟨loaded, read, made⟩
      rw [Subject.run_of_reads reads rfl]
      exact congrArg (liftError .view) (TableView.ending_call_nil _)

end Ends

/-! ## Errors after a check -/

section Sinks

variable {σ : Type u} [Sink σ] {settings : Settings} {layout : Layout} {options : ViewOptions}
  {schema : Schema} {e : RunError}

/-- With a schema, the error of a report is that of its output or of a formatter. -/
theorem not_ofSetup_of_call {ν ι : Type} [Report ν ι] {view : ν} {input : ι}
    (described : Report.Described layout.descriptor options view)
    (built : Schema.build layout.descriptor options.formatters = .ok schema)
    (failed : (∃ cause, e = .writing cause) ∨
      ∃ cause, (Report.call view input).ending = .error cause ∧ e = .view cause) : ¬ e.OfSetup := by
  obtain ⟨cause, rfl⟩ | ⟨cause, ended, rfl⟩ := failed
  · nofun
  · rw [described.call_of_build built] at ended
    obtain ⟨selector, refusal, rfl⟩ := described.refused schema built input cause ended
    nofun

/-- Once its setup succeeds, a report fails for other reasons. -/
theorem Subject.not_ofSetup {α ν ι : Type} [Report ν ι] [Report.On ν (TabAligner σ)]
    {subject : Subject α ν} {env : Environment} {source : Source} {visibility : VisibilityRequest}
    (ready : setup (Layout.load env source.layout) (settings.options visibility) = .ok ())
    {out : σ} (failed : (subject.run env settings source visibility out).2 = .error e) :
    ¬ e.OfSetup := by
  obtain ⟨layout, options, schema, loaded, made, built⟩ := setup_eq_ok_iff.1 ready
  obtain ⟨-, lacks⟩ | ⟨_, _, _, _, reads, -, refused⟩ := run_eq_error failed
  · -- The layout and the options are there, so it is the document that is lacking.
    exact (lacks.ofInput loaded made).not_ofSetup
  · cases loaded.symm.trans reads.layout
    cases made.symm.trans reads.options
    exact not_ofSetup_of_call (subject.described layout options) built refused

end Sinks

/-! ## What a check writes -/

/-- What a check that succeeds has read and written. -/
structure Checked (env : Environment) (file : Option String) (path : String)
    (visibility : VisibilityRequest) (out : Transcript) where
  settings : Settings
  layout : Layout
  options : ViewOptions
  schema : Schema
  columns : List Column
  settings_eq : Settings.load env file = .ok settings
  layout_eq : Layout.load env path = .ok layout
  options_eq : settings.options visibility = .ok options
  built : Schema.build layout.descriptor options.formatters = .ok schema
  columns_eq : columns = (TableView.ofDescriptor layout.descriptor options).columns
  /-- Tables have the columns that are checked, in the same order. -/
  columns_of_table : ∀ env' source view records, Layout.load env' source.layout = .ok layout →
    prepareTable env' settings source visibility = .ok (view, records) → view.columns = columns
  /-- The settings select columns, and leave them as they are. -/
  selected : columns = schema.everyColumn.filter
    ((Visibility.resolve schema options.directive).isShown ·.leaf.id)
  group_eq : ∀ column ∈ columns, ∃ around, Lineage schema.roots (.leaf column.leaf :: around) ∧
    column.group = nearestBox? around
  out_eq : out =
    ⟨alignedText settings.output.padding (Text.Utf8.bytesOf (gridText (Listing.cells columns))) ++
      alignedText settings.output.padding (Text.Utf8.bytesOf (unlines
        [checkMark (env.color && settings.output.color) ++ " Layout '" ++
            (if layout.name = "" then path else layout.name) ++ "' is valid: " ++
            toString columns.length ++ " visible column(s)",
          "  Available formatters: " ++
            ", ".intercalate (Registry.builtinIds ++ settings.aliases.names)])), none⟩

section Check

variable {env : Environment} {file : Option String} {path : String}
  {visibility : VisibilityRequest} {out : Transcript}

theorem prepareCheck_of_build {settings : Settings} {layout : Layout} {options : ViewOptions}
    {schema : Schema} (found : Layout.load env path = .ok layout)
    (made : settings.options visibility = .ok options)
    (built : Schema.build layout.descriptor options.formatters = .ok schema) :
    prepareCheck env settings path visibility =
      .ok (if layout.name = "" then path else layout.name,
        (TableView.ofDescriptor layout.descriptor options).columns) := by
  have fresh : (TableView.ofDescriptor layout.descriptor options).result = .ok () := by
    rw [TableView.ofDescriptor_ok built]
    rfl
  simp only [prepareCheck, found, made, fresh, liftError, bind, Except.bind, pure, Except.pure]

theorem checked_of_run
    (ended : Request.run env ⟨file, .check path visibility⟩ ({} : Transcript) = (out, .ok ())) :
    Nonempty (Checked env file path visibility out) := by
  rw [Request.run] at ended
  cases loaded : Settings.load env file with
  | error e =>
    rw [loaded] at ended
    cases congrArg Prod.snd ended
  | ok settings =>
    rw [loaded] at ended
    have ready := ending_check.symm.trans (congrArg Prod.snd ended)
    obtain ⟨layout, options, schema, found, made, built⟩ := setup_eq_ok_iff.1 ready
    have columns := TableView.ofDescriptor_ok built
    simp only [run, prepareCheck_of_build found made built, runCheck_eq] at ended
    refine ⟨{ settings, layout, options, schema
              columns := (TableView.ofDescriptor layout.descriptor options).columns
              settings_eq := loaded
              layout_eq := found
              options_eq := made
              built := built
              columns_eq := rfl
              columns_of_table := ?_
              selected := ?_
              group_eq := ?_
              out_eq := (congrArg Prod.fst ended).symm }⟩
    -- Another command reads the same layout and makes the same options of the settings.
    · intro env' source view records found' prepared'
      obtain ⟨_, _, _, _, reads, -, same⟩ := prepareTable_eq_ok_iff.1 prepared'
      cases found'.symm.trans reads.layout
      cases made.symm.trans reads.options
      cases same
      rfl
    · rw [columns]
      exact columns_eq_filter built _
    · rw [columns]
      exact fun column member => lineage_of_column member

end Check

/-- Elsewhere the same settings and the same layout are read. -/
structure SameSetup (env : Environment) (file : Option String) (path : String)
    (env' : Environment) (file' : Option String) (path' : String) : Prop where
  settings : Settings.load env' file' = Settings.load env file
  layout : Layout.load env' path' = Layout.load env path

/-- What is on the standard input is no part of the setup. -/
theorem sameSetup_input (env : Environment) (file : Option String) (path : String)
    (input : Text.Bytes) : SameSetup env file path { env with input } file path where
  settings := by
    cases file with
    | some name => rfl
    | none =>
      have same : ∀ paths, Settings.findFirst { env with input } paths =
          Settings.findFirst env paths := by
        intro paths
        induction paths with
        | nil => rfl
        | cons path rest ih =>
          rw [Settings.findFirst, Settings.findFirst, ih]
          rfl
      exact congrArg Except.ok (same _)
  layout := rfl

/-- A check ends as the table of an empty document does. Once it succeeds, no report with the same
    settings, layout and visibility ends in an error of these, whatever the document and the
    output. It lists the columns of these tables, an entry for each, and counts them; and what the
    columns are is a matter of the layout alone, but for which of them are shown. -/
theorem check_predicts_reports (env : Environment) (file : Option String) (path : String)
    (visibility : VisibilityRequest) :
    let checked := Request.run env ⟨file, .check path visibility⟩ ({} : Transcript)
    (∀ env' file' source, SameSetup env file path env' file' source.layout →
      (readDocument env' source.input = .ok (.list []) →
        (Request.run env' ⟨file', .table source visibility⟩ ({} : Transcript)).2 = checked.2) ∧
      (checked.2 = .ok () → ∀ (σ : Type u) [Sink σ] (out : σ) (e : RunError), e.OfSetup →
        (Request.run env' ⟨file', .table source visibility⟩ out).2 ≠ .error e ∧
        ∀ index, (Request.run env' ⟨file', .detail source visibility index⟩ out).2 ≠ .error e)) ∧
    (∀ out, checked = (out, .ok ()) → Nonempty (Checked env file path visibility out)) ∧
    (∀ out (first : Checked env file path visibility out) env' file' path' visibility' out'
      (second : Checked env' file' path' visibility' out'), first.layout = second.layout →
      first.schema = second.schema) := by
  intro checked
  refine ⟨fun env' file' source same => ⟨fun read => ?_, fun ended σ _ out e ofSetup => ?_⟩,
    fun out => checked_of_run, ?_⟩
  · simp only [checked, Request.run, same.settings]
    cases Settings.load env file with
    | error e => rfl
    | ok settings => rw [ending_check, ending_table_nil read, same.layout]
  · simp only [checked, Request.run] at ended
    simp only [Request.run, same.settings]
    cases loaded : Settings.load env file with
    | error cause =>
      rw [loaded] at ended
      cases ended
    | ok settings =>
      rw [loaded] at ended
      have ready := ending_check.symm.trans ended
      rw [← same.layout] at ready
      simp only [run_table, run_detail]
      exact ⟨fun failed => Subject.not_ofSetup ready failed ofSetup,
        fun index failed => Subject.not_ofSetup ready failed ofSetup⟩
  · intro out first env' file' path' visibility' out' second same
    have built := second.built
    rw [← same] at built
    -- The settings may differ, but formatters have no effect on what is built.
    exact Schema.build_unique first.built built

/-- The sample passes its check. So its table without a record succeeds, and the one of its two
    records, which ends in a refusal, ends in no error of the setup. -/
theorem check_predicts_reports_sample :
    let checked := Request.run sampleEnvironment ⟨none, .check "file.toml" {}⟩ ({} : Transcript)
    let table env :=
      (Request.run env ⟨none, .table ⟨"file.toml", none⟩ {}⟩ ({} : Transcript)).2
    let listing := "PATH  SOURCE  TITLE  FORMAT     GROUP  DEFAULT\n" ++
      "----  ------  -----  ------     -----  -------\n" ++
      "name  name    name   -          -      -\n" ++
      "size  size    size   byte-size  -      -\n" ++
      "✓ Layout 'file.toml' is valid: 2 visible column(s)\n" ++
      "  Available formatters: byte-size, duration, percentage\n"
    checked = (⟨listing, none⟩, .ok ()) ∧
      table { sampleEnvironment with input := Text.Utf8.bytesOf "[]" } = .ok () ∧
      (∀ e : RunError, e.OfSetup → table sampleEnvironment ≠ .error e) ∧
      Nonempty (Checked sampleEnvironment none "file.toml" {} ⟨listing, none⟩) := by
  intro checked table listing
  have written : checked = (⟨listing, none⟩, .ok ()) := by decide +kernel
  have ended : checked.2 = .ok () := congrArg Prod.snd written
  have read : readDocument { sampleEnvironment with input := Text.Utf8.bytesOf "[]" } none =
      .ok (.list []) := by rfl
  obtain ⟨predicts, lists, -⟩ := check_predicts_reports.{0} sampleEnvironment none "file.toml" {}
  have empty := (predicts _ none ⟨"file.toml", none⟩ (sameSetup_input _ _ _ _)).1 read
  have full := (predicts _ none ⟨"file.toml", none⟩ ⟨rfl, rfl⟩).2 ended
  exact ⟨written, empty.trans ended, fun e ofSetup => (full Transcript {} e ofSetup).1,
    lists _ written⟩

end Command

end StatusReport
