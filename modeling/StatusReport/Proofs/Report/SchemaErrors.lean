import StatusReport.Proofs.Report.ListingCut
import StatusReport.Proofs.Report.TableRun
import StatusReport.Proofs.Schema.Walk

/-! # Errors of a schema come first

A schema that is built has every formatter that a leaf of it names. So a report that has been made
without an error finds them all when it renders, whatever the records and the sinks: it may end in
a refusal of a formatter or of a sink, but never in an error of the schema.

* `Script.NoSchemaError`: a script that does not end in an error of the schema.
* `Report.Sound`: a report without an error of the schema, now and in the next call.
* `Report.Sound.render`: it stays so when it renders.
* `Report.Rendered`: what calls make of a report.
* `schema_errors_come_first`: which schemas have errors, and when they show.
-/

namespace StatusReport

/-! ## Scripts -/

namespace Script

def NoSchemaError (script : Script) : Prop := ∀ e, script.ending ≠ .error (.schema e)

variable {σ : Type u} [Sink σ]

/-- A script performed with an error ends in that error, or the error is that of the sink. -/
theorem perform_eq_error {script : Script} {s : σ} {e : ViewError}
    (failed : (perform s script).2 = .error e) :
    (∃ cause, e = .sink cause) ∨ script.ending = .error e := by
  rw [perform] at failed
  split at failed
  · exact .inl ⟨_, (Except.error.inj failed).symm⟩
  · exact .inr failed

theorem NoSchemaError.advance {script : Script} (h : script.NoSchemaError)
    {error : Option ViewError} (before : ∀ e, error ≠ some (.schema e)) (s : σ) :
    ∀ e, (Script.advance (error, s) script).1 ≠ some (.schema e) := by
  intro e ended
  cases error with
  | some cause => exact before e ended
  | none =>
    rw [Script.advance] at ended
    split at ended
    · cases ended
    · rename_i performed
      cases ended
      obtain ⟨cause, other⟩ | failed := perform_eq_error (congrArg (·.2) performed)
      · cases other
      · exact h e failed

end Script

/-! ## Texts and rows -/

section Texts

variable {formatters : Registry} {r : Record}

theorem leafText_ne_schema {leaf : Label} (known : Known formatters leaf) (e : SchemaError) :
    leafText leaf formatters r ≠ .error (.schema e) := by
  intro failed
  obtain ⟨cause, -, other⟩ := (leafText_eq_error_iff known _).1 failed
  cases other

end Texts

theorem TableView.noSchemaError_script {view : TableView}
    (known : ∀ column ∈ view.columns, Known view.formatters column.leaf) (records : List Record) :
    (view.script records).NoSchemaError := by
  intro cause ended
  obtain ⟨_, _, _, -, -, ⟨failure, other⟩, -⟩ := script_take_of_error known ended
  cases other

/-! ## Reports -/

namespace Report

variable {ν ι : Type} [Report ν ι]

/-- No error of the schema is kept, and no call ends in one. -/
structure Sound (view : ν) : Prop where
  error : ∀ e, Report.error view ≠ some (.schema e)
  scripts : ∀ input, (script view input).NoSchemaError

/-- What any number of calls make of a view, each with its input and its sink. -/
inductive Rendered (view : ν) : ν → Prop where
  | start : Rendered view view
  | call {σ : Type u} [Sink σ] [On ν σ] {earlier : ν} (before : Rendered view earlier) (s : σ)
      (input : ι) : Rendered view (On.render earlier s input).1

theorem Sound.render {σ : Type u} [Sink σ] [On ν σ] {view : ν} (sound : Sound view) (s : σ)
    (input : ι) : Sound (On.render view s input).1 := by
  rw [On.render_eq]
  constructor
  · rw [error_withError]
    exact (sound.scripts input).advance sound.error s
  · rw [script_withError]
    exact sound.scripts

theorem Sound.rendered {view later : ν} (sound : Sound view) (calls : Rendered view later) :
    Sound later := by
  induction calls with
  | start => exact sound
  | call _ s input ih => exact ih.render s input

theorem Described.sound {descriptor : Descriptor} {options : ViewOptions} {view : ν}
    (described : Described descriptor options view) (fresh : Report.error view = none) :
    Sound view := by
  obtain ⟨schema, built⟩ := described.exists_build fresh
  refine ⟨fun e kept => ?_, fun input e ended => ?_⟩
  · cases fresh.symm.trans kept
  · obtain ⟨selector, cause, other⟩ := described.refused schema built input _ ended
    cases other

end Report

/-! ## When errors of a schema show -/

/-- A schema is not built exactly if a field that the walk visits names a formatter that there is not,
    and the error names the first such field by its selector, with that formatter. A table or a
    listing that has been made without an error never has an error of the schema later, whatever it
    renders and wherever to: no leaf of a schema lacks its formatter. -/
theorem schema_errors_come_first.{u} (descriptor : Descriptor) (options : ViewOptions) :
    let formatters := options.formatters
    let table := TableView.ofDescriptor descriptor options
    let listing := DetailView.ofDescriptor descriptor options
    (∀ e, Schema.build descriptor formatters = .error e ↔
      ∃ before visit after id, descriptor.visits = before ++ visit :: after ∧
        (∀ earlier ∈ before, earlier.Resolved formatters) ∧
        visit.field.spec.format = some id ∧ formatters.get? id = none ∧
        e = .unknownFormatter (".".intercalate visit.selector) id) ∧
    ((∃ e, Schema.build descriptor formatters = .error e) ↔
      ∃ visit ∈ descriptor.visits, ∃ id,
        visit.field.spec.format = some id ∧ formatters.get? id = none) ∧
    (table.error = none → ∀ later, Report.Rendered.{u} table later →
      ∀ e, later.error ≠ some (.schema e)) ∧
    (listing.error = none → ∀ later, Report.Rendered.{u} listing later →
      ∀ e, later.error ≠ some (.schema e)) ∧
    (∀ schema, Schema.build descriptor formatters = .ok schema →
      ∀ leaf ∈ schema.leaves, ∀ r e, leafText leaf formatters r ≠ .error (.schema e)) := by
  intro formatters table listing
  refine ⟨fun e => ?_, ?_, fun fresh later calls => ?_, fun fresh later calls => ?_, ?_⟩
  · simp only [Schema.build_eq_error_iff, List.findSome?_eq_some_iff, Visit.unknown?_eq_none_iff,
      Visit.unknown?_eq_some_iff]
    constructor
    · rintro ⟨before, visit, after, split, ⟨id, named, missing, error⟩, earlier⟩
      exact ⟨before, visit, after, id, split, earlier, named, missing, error⟩
    · rintro ⟨before, visit, after, id, split, earlier, named, missing, error⟩
      exact ⟨before, visit, after, split, ⟨id, named, missing, error⟩, earlier⟩
  · simp only [Schema.build_eq_error_iff, ← Option.isSome_iff_exists, List.findSome?_isSome_iff]
    simp only [Option.isSome_iff_exists, Visit.unknown?_eq_some_iff]
    constructor
    · rintro ⟨visit, member, _, id, named, missing, -⟩
      exact ⟨visit, member, id, named, missing⟩
    · rintro ⟨visit, member, id, named, missing⟩
      exact ⟨visit, member, _, id, named, missing, rfl⟩
  · exact (((TableView.described descriptor options).sound fresh).rendered calls).error
  · exact (((DetailView.described descriptor options).sound fresh).rendered calls).error
  · intro schema built leaf member r e
    exact leafText_ne_schema ((Schema.build_eq_ok_iff.1 built).2.known leaf member) e

/-- Three unknown formatters: one inside a field that is no group, one inside a flatten group, and one
    after it. -/
def Sample.misformatted : Descriptor where
  fields := [
    .record { key := "limits" } "Limits" [.scalar { key := "cpu", format := some "cores" }],
    .record { key := "usage", group := some ⟨"Usage", true⟩ } "Usage" [
      .scalar { key := "memory", format := some "pages" }],
    .scalar { key := "name", format := some "upper" }]

/-- A table and a listing of jobs have no error of the schema after a refusal, and the first unknown
    formatter of a descriptor is the error of its schema. -/
theorem schema_errors_come_first_jobs :
    let table := TableView.ofDescriptor Sample.jobs Sample.options
    let listing := DetailView.ofDescriptor Sample.jobs Sample.options
    let bad := Sample.job "b" (.str "?")
    let tabled := (table.render ({} : Transcript) [bad]).1
    let listed := (listing.render ({} : Transcript) bad).1
    table.error = none ∧ listing.error = none ∧
      (∀ e, tabled.error ≠ some (.schema e)) ∧ (∀ e, listed.error ≠ some (.schema e)) ∧
      (∀ r e, leafText Sample.memoryLeaf {} r ≠ .error (.schema e)) ∧
      Schema.build Sample.misformatted {} = .error (.unknownFormatter "usage.memory" "pages") := by
  intro table listing bad tabled listed
  obtain ⟨-, -, tables, listings, texts⟩ := schema_errors_come_first Sample.jobs Sample.options
  obtain ⟨first, -⟩ := schema_errors_come_first.{0} Sample.misformatted {}
  refine ⟨rfl, rfl, tables rfl tabled (.call .start ({} : Transcript) [bad]),
    listings rfl listed (.call .start ({} : Transcript) bad),
    texts Sample.schema Sample.build_jobs _ (by simp [Sample.leaves_schema]), (first _).2 ?_⟩
  exact ⟨Sample.misformatted.visits.take 2,
    ⟨["usage"], .scalar { key := "memory", format := some "pages" }⟩,
    Sample.misformatted.visits.drop 3, "pages", rfl,
    by simp [Sample.misformatted, Descriptor.visits, Field.visitsAll, Field.visits, FieldSpec.isOpen,
      Visit.Resolved, Field.spec], rfl, by decide, rfl⟩

end StatusReport
