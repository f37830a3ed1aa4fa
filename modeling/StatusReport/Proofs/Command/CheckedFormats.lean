import StatusReport.Proofs.Command.CheckPrediction
import StatusReport.Proofs.Report.Twins
import StatusReport.Proofs.Schema.ClosedRecords

/-! # Formats that a check has checked

A check that succeeds has built the schema of its layout, and so has looked up every formatter that
the layout names outside closed records. Those named inside closed records it has not looked up.

* `Layout.formats`: the formatters that a layout names.
* `Layout.forall_formats_iff`: they are those that its descriptor names.
* `Command.formats_unchecked_in_closed_records`: what a schema, and a check, say about formatters.
-/

namespace StatusReport

namespace LayoutField

mutual

/-- The formatters that a field and the fields inside it name. -/
def formats : LayoutField → List String
  | ⟨_, _, _, format, _, fields⟩ => format.toList ++ formatsOfAll fields

def formatsOfAll : List LayoutField → List String
  | [] => []
  | f :: rest => formats f ++ formatsOfAll rest

end

mutual

theorem formats_toField (around : List String) (f : LayoutField) :
    (Field.everywhere around f.toField).flatMap (·.field.spec.format.toList) = f.formats := by
  obtain ⟨key, title, defaultText, format, group, fields⟩ := f
  rw [toField, formats]
  split
  next =>
    rw [Field.everywhere, List.flatMap_cons, formats_toFields _ fields]
    rfl
  next single =>
    -- There is nothing inside a field with a single value.
    have empty : fields = [] := by
      simp only [Bool.or_eq_true, not_or] at single
      simpa using single.2
    rw [Field.everywhere, List.flatMap_singleton, empty, formatsOfAll, List.append_nil]
    rfl

theorem formats_toFields (around : List String) (fields : List LayoutField) :
    (Field.everywhereAll around (toFields fields)).flatMap (·.field.spec.format.toList) =
      formatsOfAll fields := by
  cases fields with
  | nil => rfl
  | cons f rest =>
    rw [toFields, Field.everywhereAll, List.flatMap_append, formats_toField around f,
      formats_toFields around rest, formatsOfAll]

end

end LayoutField

namespace Layout

def formats (layout : Layout) : List String := LayoutField.formatsOfAll layout.fields

theorem forall_formats_iff {layout : Layout} {formatters : Registry} :
    (∀ id ∈ layout.formats, formatters.contains id = true) ↔
      ∀ visit ∈ layout.descriptor.everyField, visit.Resolved formatters := by
  have named : layout.formats =
      layout.descriptor.everyField.flatMap (·.field.spec.format.toList) :=
    (LayoutField.formats_toFields [] layout.fields).symm
  simp only [named, List.mem_flatMap, Option.mem_toList, forall_exists_index, and_imp,
    Visit.Resolved, Registry.contains, Option.isSome_iff_exists]
  exact ⟨fun all visit member id format => all id visit member format,
    fun all id visit member format => all visit member id format⟩

end Layout

namespace Command

/-- A schema is built exactly if every formatter is there that is named outside closed records, and
    what is inside closed records has no part in it. So once it is built, or a layout has passed its
    check, all formatters that are named are there exactly if those are that are named inside
    closed records. -/
theorem formats_unchecked_in_closed_records (descriptor : Descriptor) (formatters : Registry) :
    Schema.build descriptor.pruned formatters = Schema.build descriptor formatters ∧
    ((∃ schema, Schema.build descriptor formatters = .ok schema) ↔
      ∀ visit ∈ descriptor.visits, visit.Resolved formatters) ∧
    (∀ schema, Schema.build descriptor formatters = .ok schema →
      ((∀ visit ∈ descriptor.everyField, visit.Resolved formatters) ↔
        ∀ visit ∈ descriptor.passedOver, visit.Resolved formatters)) ∧
    ∀ (env : Environment) (file : Option String) (path : String) (visibility : VisibilityRequest)
      (out : Transcript),
      Request.run env ⟨file, .check path visibility⟩ ({} : Transcript) = (out, .ok ()) →
        ∃ settings layout options, Settings.load env file = .ok settings ∧
          Layout.load env path = .ok layout ∧ settings.options visibility = .ok options ∧
          (∀ visit ∈ layout.descriptor.visits, visit.Resolved options.formatters) ∧
          ((∀ id ∈ layout.formats, options.formatters.contains id = true) ↔
            ∀ visit ∈ layout.descriptor.passedOver, visit.Resolved options.formatters) := by
  refine ⟨Schema.build_pruned descriptor formatters, Schema.exists_build_eq_ok_iff,
    fun schema => Schema.resolved_iff_of_build, ?_⟩
  intro env file path visibility out ended
  obtain ⟨checked⟩ := checked_of_run ended
  refine ⟨checked.settings, checked.layout, checked.options, checked.settings_eq,
    checked.layout_eq, checked.options_eq, ?_, ?_⟩
  · exact Schema.exists_build_eq_ok_iff.1 ⟨checked.schema, checked.built⟩
  · rw [Layout.forall_formats_iff]
    exact Schema.resolved_iff_of_build checked.built

def limits (format : String) : Descriptor where
  fields := [.record { key := "limits" } "limits" [.scalar { key := "cpu", format := some format }]]

def limitsFile (format : String) : Environment where
  file path :=
    if path = "file.toml" then
      .ok (Text.Utf8.bytesOf
        ("[[fields]]\nkey = \"limits\"\n[[fields.fields]]\nkey = \"cpu\"\nformat = \"" ++
          format ++ "\"\n"))
    else .error .notFound

/-- What a check looks at: that the layout is read and its schema is built. -/
theorem check_limitsFile (format : String)
    (read : (Layout.load (limitsFile format) "file.toml").toOption.map (fun layout =>
      (layout.formats, layout.descriptor.passedOver.map (·.field.spec.format),
        (Schema.build layout.descriptor {}).toOption.isSome)) =
      some ([format], [some format], true)) :
    (Request.run (limitsFile format) ⟨none, .check "file.toml" {}⟩ ({} : Transcript)).2 = .ok () ∧
      ∃ layout, Layout.load (limitsFile format) "file.toml" = .ok layout ∧
        layout.formats = [format] ∧
        layout.descriptor.passedOver.map (·.field.spec.format) = [some format] := by
  obtain ⟨layout, found, facts⟩ := Option.map_eq_some_iff.1 read
  rw [toOption_eq_some_iff] at found
  simp only [Prod.mk.injEq] at facts
  obtain ⟨formats, passed, made⟩ := facts
  obtain ⟨schema, built⟩ := Option.isSome_iff_exists.1 made
  rw [toOption_eq_some_iff] at built
  have ready : setup (Layout.load (limitsFile format) "file.toml") (({} : Settings).options {}) =
      .ok () :=
    setup_eq_ok_iff.2 ⟨layout, {}, schema, found, rfl, built⟩
  have settled : Request.run (limitsFile format) ⟨none, .check "file.toml" {}⟩ ({} : Transcript) =
      run (limitsFile format) {} (.check "file.toml" {}) {} := by
    rw [Request.run, show Settings.load (limitsFile format) none = .ok {} from rfl]
  rw [settled, ending_check]
  exact ⟨ready, layout, found, formats, passed⟩

/-- The formatter that is named inside the closed record is there, so all are: in the schema, and
    in a layout that passes its check. -/
theorem formats_unchecked_in_closed_records_limits :
    (∃ schema, Schema.build (limits "duration") {} = .ok schema) ∧
      (∀ visit ∈ (limits "duration").everyField, visit.Resolved {}) ∧
      ∃ out layout options,
        Request.run (limitsFile "duration") ⟨none, .check "file.toml" {}⟩ ({} : Transcript) =
          (out, .ok ()) ∧
        Layout.load (limitsFile "duration") "file.toml" = .ok layout ∧
        ({} : Settings).options {} = .ok options ∧ layout.formats = ["duration"] ∧
        ∀ id ∈ layout.formats, options.formatters.contains id = true := by
  have known : ∀ visit : Visit, visit.field.spec.format ∈ [some "duration"] →
      visit.Resolved {} := by
    intro visit named id format
    rw [format, List.mem_singleton, Option.some_inj] at named
    rw [named]
    exact ⟨_, rfl⟩
  obtain ⟨-, -, resolved, checked⟩ := formats_unchecked_in_closed_records (limits "duration") {}
  refine ⟨⟨_, rfl⟩, (resolved _ rfl).2 fun visit member => known visit ?_, ?_⟩
  · exact List.mem_map_of_mem (f := fun visit : Visit => visit.field.spec.format) member
  obtain ⟨ended, layout, found, formats, passed⟩ :=
    check_limitsFile "duration" (by decide +kernel)
  have made : ({} : Settings).options {} = .ok {} := rfl
  generalize ran : Request.run (limitsFile "duration") ⟨none, .check "file.toml" {}⟩
    ({} : Transcript) = outcome at ended
  obtain ⟨out, _⟩ := outcome
  cases ended
  obtain ⟨settings, layout', options, read, found', made', -, named⟩ := checked _ _ _ _ _ ran
  cases (rfl : Settings.load (limitsFile "duration") none = .ok {}).symm.trans read
  cases found.symm.trans found'
  cases made.symm.trans made'
  refine ⟨out, layout, {}, rfl, found, made, formats, named.2 fun visit member => known visit ?_⟩
  rw [← passed]
  exact List.mem_map_of_mem member

/-- A schema is built though a field names a formatter that there is not, and a layout with that
    field passes its check. -/
theorem check_passes_unknown_format :
    (∃ schema, Schema.build (limits "cores") {} = .ok schema) ∧
      (∃ visit ∈ (limits "cores").everyField, ¬ visit.Resolved {}) ∧
      (Request.run (limitsFile "cores") ⟨none, .check "file.toml" {}⟩ ({} : Transcript)).2 =
        .ok () ∧
      ∃ layout options, Layout.load (limitsFile "cores") "file.toml" = .ok layout ∧
        ({} : Settings).options {} = .ok options ∧ layout.formats = ["cores"] ∧
        options.formatters.contains "cores" = false := by
  obtain ⟨ended, layout, found, formats, -⟩ :=
    check_limitsFile "cores" (by decide +kernel)
  refine ⟨⟨_, rfl⟩, ?_, ended, layout, {}, found, rfl, formats, by decide +kernel⟩
  refine ⟨⟨["limits"], .scalar { key := "cpu", format := some "cores" }⟩,
    List.mem_cons_of_mem _ List.mem_cons_self, fun resolved => ?_⟩
  obtain ⟨f, known⟩ := resolved "cores" rfl
  cases known

end Command

end StatusReport
