import StatusReport.Command.Run
import StatusReport.Proofs.Command.ColumnListing
import StatusReport.Proofs.Command.Preparation
import StatusReport.Proofs.Report.ListingCut
import StatusReport.Proofs.Report.TableRun

/-! # Delivering reports

What a report writes is held back until the report has ended, and then passed on aligned. So what
the output gets depends on the script of the report as a whole, and on the padding.

* `Command.delivered`: what the output gets of a script.
* `Command.deliver_render`: reports are delivered.
* `Command.Subject`: what a command reports on, for tables and listings alike.
* `Command.Subject.run_of_reads`, `Command.Subject.run_eq_error`: what such a command writes, and
  its errors on any output.
* `Command.runCheck_eq`: a check delivers the listing of columns, then the summary.
-/

namespace StatusReport

namespace TabAligner

theorem append_empty {σ : Type u} (a : TabAligner σ) : a.append (Text.Utf8.bytesOf "") = a := by
  have nothing : Text.Utf8.bytesOf "" = [] := rfl
  simp [append, nothing]

theorem flush_unbounded (received : String) (padding : Nat) (pending : Array UInt8) :
    (TabAligner.mk (⟨received, none⟩ : Transcript) padding pending).flush =
      (⟨⟨received ++ alignedText padding pending.toList, none⟩, padding, #[]⟩, .ok ()) := by
  rw [flush]
  cases empty : pending.isEmpty with
  | true =>
    have nothing : alignedText padding [] = "" := rfl
    rw [Array.isEmpty_iff] at empty
    subst empty
    rw [Array.toList_empty, nothing, String.append_empty]
    rfl
  | false =>
    simp only [Bool.false_eq_true, if_false, Transcript.write_unbounded]
    rfl

theorem flush_append (received : String) (padding : Nat) (bytes : Text.Bytes) :
    ((TabAligner.mk (⟨received, none⟩ : Transcript) padding #[]).append bytes).flush =
      (⟨⟨received ++ alignedText padding bytes, none⟩, padding, #[]⟩, .ok ()) := by
  have all : ((#[] : Array UInt8) ++ bytes).toList = bytes := by simp
  rw [append, flush_unbounded, all]

end TabAligner

namespace Command

def heldBack (settings : Settings) (text : String) : TabAligner Transcript :=
  (TabAligner.mk {} settings.output.padding #[]).append (Text.Utf8.bytesOf text)

theorem keeps_heldBack (settings : Settings) : Sink.Keeps (heldBack settings) :=
  TabAligner.keeps _

theorem heldBack_empty (settings : Settings) :
    heldBack settings "" = TabAligner.mk {} settings.output.padding #[] := rfl

/-- What the sink gets of a script, aligned, and how that ends. -/
def delivered (settings : Settings) (script : Script) : Transcript × Except RunError Unit :=
  (⟨alignedText settings.output.padding (Text.Utf8.bytesOf script.output), none⟩,
    liftError .view script.ending)

theorem deliver_heldBack (settings : Settings) (script : Script) :
    deliver (heldBack settings script.output) script.ending = delivered settings script := by
  rw [deliver, heldBack, TabAligner.flush_append, String.empty_append]
  rfl

theorem deliver_render {ν ι : Type} [Report ν ι] [Report.On ν (TabAligner Transcript)]
    (settings : Settings) (view : ν) (input : ι) :
    let rendered := Report.On.render view
      (TabAligner.mk ({} : Transcript) settings.output.padding #[]) input
    deliver rendered.2 (Report.result rendered.1) =
      delivered settings (Report.call view input) := by
  intro rendered
  have performed := Report.render_call view (keeps_heldBack settings) "" input
  rw [heldBack_empty, String.empty_append] at performed
  rw [← deliver_heldBack, ← performed.1, ← performed.2]

theorem delivered_of_error (settings : Settings) (e : ViewError) :
    delivered settings ⟨[], .error e⟩ = ({}, .error (.view e)) := by
  have nothing : Text.Utf8.bytesOf "" = [] := rfl
  rw [delivered, Script.output, unlines_nil, nothing]
  rfl

/-- A report that is delivered with an error ended in that error, or its output could not be
    written. -/
theorem deliver_eq_error {σ : Type u} [Sink σ] {a : TabAligner σ} {result : Except ViewError Unit}
    {e : RunError} (failed : (deliver a result).2 = .error e) :
    (∃ cause, e = .writing cause) ∨ ∃ cause, result = .error cause ∧ e = .view cause := by
  rw [deliver] at failed
  split at failed
  · cases failed
    exact .inl ⟨_, rfl⟩
  · exact .inr (liftError_eq_error_iff.1 failed)

theorem deliver_render_eq_error {σ : Type u} [Sink σ] {ν ι : Type} [Report ν ι]
    [Report.On ν (TabAligner σ)] (view : ν) (input : ι) {out : σ} {padding : Nat} {e : RunError}
    (failed : (deliver (Report.On.render view (TabAligner.mk out padding #[]) input).2
      (Report.result (Report.On.render view (TabAligner.mk out padding #[]) input).1)).2 = .error e) :
    (∃ cause, e = .writing cause) ∨
      ∃ cause, (Report.call view input).ending = .error cause ∧ e = .view cause := by
  have performed := Report.render_call view (TabAligner.keeps (TabAligner.mk out padding #[])) ""
    input
  rw [TabAligner.append_empty] at performed
  rw [← performed.1]
  exact deliver_eq_error failed

/-! ## Reports on records

The commands for tables and for listings differ in what they select of a document and in the view
they make. What follows is about both of them. -/

/-- What a command reports on: the part of a document it selects, a view of a layout and options,
    and the input that the view is given. -/
structure Subject (α ν : Type) {ι : Type} [Report ν ι] where
  select : Data → Except InputError α
  view : Layout → ViewOptions → ν
  input : α → ι
  described : ∀ layout options, Report.Described layout.descriptor options (view layout options)

namespace Subject

def table : Subject (List Data) TableView where
  select := Document.rows
  view layout options := .ofDescriptor layout.descriptor options
  input items := items.map .ofData
  described layout options := TableView.described layout.descriptor options

def detail (index : Nat) : Subject Data DetailView where
  select := Document.record index
  view layout options := .ofDescriptor layout.descriptor options
  input item := .ofData item
  described layout options := DetailView.described layout.descriptor options

variable {α ν ι : Type} [Report ν ι] (subject : Subject α ν)

section Run

variable {σ : Type u} [Sink σ] [Report.On ν (TabAligner σ)]

/-- Delivers a report that has been prepared. -/
def report (settings : Settings) (out : σ) : Except RunError (ν × ι) → σ × Except RunError Unit
  | .error e => (out, .error e)
  | .ok (view, input) =>
    let rendered := Report.On.render view (TabAligner.mk out settings.output.padding #[]) input
    deliver rendered.2 (Report.result rendered.1)

/-- A command that reports on a subject. -/
def run (env : Environment) (settings : Settings) (source : Source)
    (visibility : VisibilityRequest) (out : σ) : σ × Except RunError Unit :=
  report settings out <|
    prepare env settings source visibility subject.select fun layout options selected =>
      (subject.view layout options, subject.input selected)

variable {subject} {env : Environment} {settings : Settings} {source : Source}
  {visibility : VisibilityRequest} {out : σ}

/-- A command that fails has written nothing because something is lacking, or fails in the report
    that it was able to prepare. -/
theorem run_eq_error {e : RunError}
    (failed : (subject.run env settings source visibility out).2 = .error e) :
    ((subject.run env settings source visibility out).1 = out ∧
      Lacks env settings source visibility e) ∨
      ∃ layout document options selected,
        Reads env settings source visibility layout document options ∧
        subject.select document = .ok selected ∧
        ((∃ cause, e = .writing cause) ∨ ∃ cause,
          (Report.call (subject.view layout options) (subject.input selected)).ending =
            .error cause ∧ e = .view cause) := by
  rw [run] at failed ⊢
  cases prepared : prepare env settings source visibility subject.select fun layout options
      selected => (subject.view layout options, subject.input selected) with
  | error cause =>
    rw [prepared] at failed
    cases failed
    exact .inl ⟨rfl, prepare_lacks prepared⟩
  | ok made =>
    obtain ⟨layout, document, options, selected, reads, found, rfl⟩ := prepare_eq_ok_iff.1 prepared
    rw [prepared] at failed
    exact .inr ⟨layout, document, options, selected, reads, found,
      deliver_render_eq_error _ _ failed⟩

end Run

section Output

variable [Report.On ν (TabAligner Transcript)] {subject} {env : Environment} {settings : Settings}
  {source : Source} {visibility : VisibilityRequest}

/-- A command delivers its report if the layout, the document and the options can be read. -/
theorem run_of_reads {layout : Layout} {document : Data} {options : ViewOptions} {selected : α}
    (reads : Reads env settings source visibility layout document options)
    (found : subject.select document = .ok selected) :
    subject.run env settings source visibility ({} : Transcript) =
      delivered settings
        (Report.call (subject.view layout options) (subject.input selected)) := by
  rw [run, prepare_eq_ok_iff.2 ⟨layout, document, options, selected, reads, found, rfl⟩]
  exact deliver_render settings _ _

/-- A command fails because something that it reads is lacking, having written nothing, or in the
    report that it delivers. -/
theorem run_cases {out : Transcript} {e : RunError}
    (failed : subject.run env settings source visibility ({} : Transcript) = (out, .error e)) :
    (out = {} ∧ Lacks env settings source visibility e) ∨
      ∃ layout document options selected,
        Reads env settings source visibility layout document options ∧
        subject.select document = .ok selected ∧
        delivered settings (Report.call (subject.view layout options) (subject.input selected)) =
          (out, .error e) := by
  obtain ⟨kept, lacks⟩ | ⟨layout, document, options, selected, reads, found, -⟩ :=
    run_eq_error (congrArg Prod.snd failed)
  · exact .inl ⟨(congrArg Prod.fst failed).symm.trans kept, lacks⟩
  · rw [run_of_reads reads found] at failed
    exact .inr ⟨layout, document, options, selected, reads, found, failed⟩

end Output

end Subject

section Commands

variable {σ : Type u} [Sink σ] (env : Environment) (settings : Settings) (source : Source)
  (visibility : VisibilityRequest) (out : σ)

theorem run_table :
    run env settings (.table source visibility) out =
      Subject.table.run env settings source visibility out := by
  change _ = Subject.report settings out (prepareTable env settings source visibility)
  rw [run]
  cases prepareTable env settings source visibility <;> rfl

theorem run_detail (index : Nat) :
    run env settings (.detail source visibility index) out =
      (Subject.detail index).run env settings source visibility out := by
  change _ = Subject.report settings out (prepareDetail env settings source visibility index)
  rw [run]
  cases prepareDetail env settings source visibility index <;> rfl

end Commands

/-! ## Checks -/

theorem call_listing (columns : List Column) :
    (Report.call Listing.view (columns.map Column.toRecord)).ending = .ok () ∧
      (Report.call Listing.view (columns.map Column.toRecord)).output =
        gridText (Listing.cells columns) := by
  have fresh : Listing.view.error = none := rfl
  have called := (Report.call_of_fresh Listing.view fresh (columns.map Column.toRecord)).trans
    (Listing.script_toRecord columns)
  rw [called]
  exact ⟨rfl, rfl⟩

/-- A check that has been prepared writes the listing and the summary, each aligned by itself. -/
theorem runCheck_eq (settings : Settings) (color : Bool) (name : String) (columns : List Column) :
    runCheck settings color name columns ({} : Transcript) =
      (⟨alignedText settings.output.padding
          (Text.Utf8.bytesOf (gridText (Listing.cells columns))) ++
        alignedText settings.output.padding
          (Text.Utf8.bytesOf (unlines (summary settings color name columns))), none⟩, .ok ()) := by
  have rendered (view : TableView) (records : List Record) :
      (view.render (heldBack settings "") records).1.result = (Report.call view records).ending ∧
        (view.render (heldBack settings "") records).2 =
          heldBack settings ("" ++ (Report.call view records).output) :=
    Report.render_call view (keeps_heldBack settings) "" records
  obtain ⟨ended, passed⟩ := rendered Listing.view (columns.map Column.toRecord)
  rw [(call_listing columns).1, heldBack_empty] at ended
  rw [(call_listing columns).2, heldBack_empty] at passed
  rw [runCheck]
  simp only [ended, passed, heldBack, TabAligner.flush_append, String.empty_append]
  -- The listing has been passed on; the summary starts with nothing pending.
  generalize alignedText settings.output.padding _ = received
  have kept := TabAligner.keeps (TabAligner.mk (⟨received, none⟩ : Transcript)
    settings.output.padding #[])
  have written := kept.writeLines "" (summary settings color name columns)
  rw [TabAligner.append_empty] at written
  rw [written, deliver, String.empty_append, TabAligner.flush_append]
  rfl

theorem runCheck_ok (settings : Settings) (color : Bool) (name : String) (columns : List Column) :
    (runCheck settings color name columns ({} : Transcript)).2 = .ok () := by
  rw [runCheck_eq]

end Command

end StatusReport
