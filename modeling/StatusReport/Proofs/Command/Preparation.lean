import StatusReport.Command.Run

/-! # Preparing reports

A command reads all that its report is made from before the report starts: a layout, a document and
the options.

* `Command.Reads`: what is read.
* `Command.prepare_eq_ok_iff`: reports that can be prepared.
* `Command.Lacks`, `Command.prepare_lacks`: what the others lack.
-/

namespace StatusReport

/-- An error of a document that cannot be read, or that holds no records. -/
inductive RunError.OfInput : RunError → Prop where
  | reading (cause : ReadError) : OfInput (.reading cause)
  | input (cause : InputError) : OfInput (.input cause)

theorem RunError.OfInput.ne_view {e : RunError} (h : e.OfInput) (cause : ViewError) :
    e ≠ .view cause := by
  cases h <;> nofun

namespace Command

theorem liftError_eq_ok_iff {ε α : Type _} {wrap : ε → RunError} {x : Except ε α} {a : α} :
    liftError wrap x = .ok a ↔ x = .ok a := by
  cases x <;> simp [liftError]

theorem bind_eq_ok_iff {ε α β : Type _} {x : Except ε α} {f : α → Except ε β} {b : β} :
    x >>= f = .ok b ↔ ∃ a, x = .ok a ∧ f a = .ok b := by
  cases x <;> simp [bind, Except.bind]

theorem liftError_eq_error_iff {ε α : Type _} {wrap : ε → RunError} {x : Except ε α}
    {e : RunError} : liftError wrap x = .error e ↔ ∃ cause, x = .error cause ∧ e = wrap cause := by
  cases x <;> simp [liftError, eq_comm]

theorem bind_eq_error_iff {ε α β : Type _} {x : Except ε α} {f : α → Except ε β} {e : ε} :
    x >>= f = .error e ↔ x = .error e ∨ ∃ a, x = .ok a ∧ f a = .error e := by
  cases x <;> simp [bind, Except.bind]

/-- What a report on records is made from: a layout, a document and options. -/
structure Reads (env : Environment) (settings : Settings) (source : Source)
    (visibility : VisibilityRequest) (layout : Layout) (document : Data) (options : ViewOptions) :
    Prop where
  layout : Layout.load env source.layout = .ok layout
  document : readDocument env source.input = .ok document
  options : settings.options visibility = .ok options

/-- What a report on records lacks that cannot be prepared, by the error it ends in. -/
inductive Lacks (env : Environment) (settings : Settings) (source : Source)
    (visibility : VisibilityRequest) : RunError → Prop where
  | layout {cause : LayoutError} (lost : Layout.load env source.layout = .error cause) :
      Lacks env settings source visibility (.layout cause)
  | document {e : RunError} (unread : e.OfInput) : Lacks env settings source visibility e
  | options {cause : SettingsError} (unmade : settings.options visibility = .error cause) :
      Lacks env settings source visibility (.settings cause)

section Reading

variable {env : Environment} {settings : Settings} {source : Source}
  {visibility : VisibilityRequest}

theorem Lacks.ne_view {e : RunError} (lacks : Lacks env settings source visibility e)
    (cause : ViewError) : e ≠ .view cause := by
  cases lacks with
  | layout => nofun
  | document unread => exact unread.ne_view cause
  | options => nofun

theorem Lacks.ofInput {e : RunError} {layout : Layout} {options : ViewOptions}
    (lacks : Lacks env settings source visibility e)
    (loaded : Layout.load env source.layout = .ok layout)
    (made : settings.options visibility = .ok options) : e.OfInput := by
  cases lacks with
  | layout lost => cases loaded.symm.trans lost
  | document unread => exact unread
  | options unmade => cases made.symm.trans unmade

theorem readDocument_error {path : Option String} {e : RunError}
    (failed : readDocument env path = .error e) : e.OfInput := by
  have inputFailed : readDocument.readInput env = .error e → e.OfInput := by
    simp only [readDocument.readInput, bind_eq_error_iff, liftError_eq_error_iff]
    rintro (⟨cause, -, rfl⟩ | ⟨_, -, cause, -, rfl⟩)
    · exact .reading cause
    · exact .input cause
  rw [readDocument.eq_def] at failed
  split at failed
  · split at failed
    · exact inputFailed failed
    · simp only [bind_eq_error_iff, liftError_eq_error_iff] at failed
      obtain ⟨cause, -, rfl⟩ | ⟨_, -, cause, -, rfl⟩ := failed
      · exact .reading cause
      · exact .input cause
  · exact inputFailed failed

section Prepare

variable {α β : Type _} {select : Data → Except InputError α} {make : Layout → ViewOptions → α → β}

/-- A report is prepared if all that it is made from can be read. -/
theorem prepare_eq_ok_iff {prepared : β} :
    prepare env settings source visibility select make = .ok prepared ↔
      ∃ layout document options selected,
        Reads env settings source visibility layout document options ∧
        select document = .ok selected ∧ prepared = make layout options selected := by
  simp only [prepare, bind_eq_ok_iff, liftError_eq_ok_iff, pure, Except.pure, Except.ok.injEq]
  constructor
  · rintro ⟨layout, loaded, document, read, selected, found, options, made, rfl⟩
    exact ⟨layout, document, options, selected, ⟨loaded, read, made⟩, found, rfl⟩
  · rintro ⟨layout, document, options, selected, ⟨loaded, read, made⟩, found, rfl⟩
    exact ⟨layout, loaded, document, read, selected, found, options, made, rfl⟩

theorem prepare_lacks {e : RunError}
    (failed : prepare env settings source visibility select make = .error e) :
    Lacks env settings source visibility e := by
  simp only [prepare, bind_eq_error_iff, liftError_eq_error_iff, pure, Except.pure,
    reduceCtorEq, and_false, exists_false, or_false] at failed
  obtain ⟨_, lost, rfl⟩ | ⟨_, -, unread | ⟨_, -, ⟨cause, -, rfl⟩ | ⟨_, -, _, unmade, rfl⟩⟩⟩ := failed
  · exact .layout lost
  · exact .document (readDocument_error unread)
  · exact .document (.input cause)
  · exact .options unmade

end Prepare

theorem prepareTable_eq_ok_iff {prepared : TableView × List Record} :
    prepareTable env settings source visibility = .ok prepared ↔
      ∃ layout document options items,
        Reads env settings source visibility layout document options ∧
        Document.rows document = .ok items ∧
        prepared = (.ofDescriptor layout.descriptor options, items.map .ofData) :=
  prepare_eq_ok_iff

theorem prepareDetail_eq_ok_iff {index : Nat} {prepared : DetailView × Record} :
    prepareDetail env settings source visibility index = .ok prepared ↔
      ∃ layout document options item,
        Reads env settings source visibility layout document options ∧
        Document.record index document = .ok item ∧
        prepared = (.ofDescriptor layout.descriptor options, .ofData item) :=
  prepare_eq_ok_iff

end Reading

end Command

end StatusReport
