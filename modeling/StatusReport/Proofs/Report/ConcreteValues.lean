import StatusReport.Proofs.Extraction
import StatusReport.Proofs.Report.ListingCut
import StatusReport.Proofs.Report.TableRun
import StatusReport.Proofs.Schema.Walk

/-! # Formatters see concrete values

What is extracted is neither missing nor an indirection, and nothing else is handed to a formatter.
So what a formatter would make of a missing value or of an indirection has no effect on a report.
A leaf without a value has its default text, whatever its formatter does.

* `Value.Concrete`: a value that is there, without an indirection around it.
* `Registry.AgreeOnConcrete`: formatters of the same names that make the same of concrete values.
* `leafText_of_agree`, `leafText_of_absent`: the text of a leaf with either of them, or of none.
* `formatters_see_concrete_values`: so reports are the same with either.
-/

namespace StatusReport

open Report (renderAll)

/-- A value that is there, without an indirection around it. -/
def Value.Concrete (v : Value) : Prop := v ≠ .nil ∧ ∀ w, v ≠ .ref w

/-- Formatters of the same names, which make the same of concrete values. What they make of other
    values is up to each of them. -/
structure Registry.AgreeOnConcrete (formatters formatters' : Registry) : Prop where
  names : ∀ id, formatters.contains id = formatters'.contains id
  apply : ∀ id f f', formatters.get? id = some f → formatters'.get? id = some f' →
    ∀ v, v.Concrete → ∀ r, f.apply v r = f'.apply v r

/-! ## Leaves -/

section Leaves

variable {formatters formatters' : Registry} {leaf : Label} {r : Record}

theorem valueText_of_agree (agree : formatters.AgreeOnConcrete formatters') {v : Value}
    (concrete : v.Concrete) :
    valueText leaf formatters r v = valueText leaf formatters' r v := by
  rw [valueText, valueText]
  cases leaf.formatter with
  | none => rfl
  | some id =>
    have known := agree.names id
    cases found : formatters.get? id with
    | none =>
      have unknown : formatters'.get? id = none := by
        simpa [Registry.contains, found] using known
      simp only [found, unknown]
    | some f =>
      obtain ⟨f', found'⟩ : ∃ f', formatters'.get? id = some f' := by
        simpa [Registry.contains, found, Option.isSome_iff_exists] using known
      simp only [found, found', agree.apply id f f' found found' v concrete r]

/-- Only a concrete value is handed to the formatter of a leaf. -/
theorem leafText_of_agree (agree : formatters.AgreeOnConcrete formatters') (leaf : Label)
    (r : Record) : leafText leaf formatters r = leafText leaf formatters' r := by
  rw [leafText, leafText]
  cases found : r.extract leaf.selector with
  | none => rfl
  | some v =>
    have concrete : v.Concrete := Record.extract_concrete found
    simp only [valueText_of_agree agree concrete]

/-- No formatter has a part in the text of a leaf without a value. -/
theorem leafText_of_absent (absent : r.extract leaf.selector = none) (formatters : Registry) :
    leafText leaf formatters r = .ok leaf.defaultText := by
  simp only [leafText, absent, orDefault, if_true]

end Leaves

/-! ## Reports -/

namespace TableView

theorem row_of_absent {columns : List Column} {formatters : Registry} {r : Record}
    {texts : List String} (made : row columns formatters r = .ok texts) {i : Nat} {column : Column}
    (here : columns[i]? = some column)
    (absent : r.extract column.leaf.selector = none) :
    texts[i]? = some column.leaf.defaultText := by
  obtain ⟨text, head, cell⟩ := getElem?_row made here
  cases (leafText_of_absent absent formatters).symm.trans head
  exact cell

end TableView

namespace DetailView

theorem linesOf_of_absent {formatters : Registry} {leaf : Label} {r : Record}
    (absent : r.extract leaf.selector = none) (visibility : Visibility) (depth : Nat) :
    linesOf visibility formatters r depth (.leaf leaf) =
      .ok (if visibility.isShown leaf.id = true ∧ leaf.defaultText ≠ "" then
        [.entry depth leaf.title leaf.defaultText] else []) := by
  rw [linesOf, leafText_of_absent absent]
  by_cases shown : visibility.isShown leaf.id = true
  · by_cases empty : leaf.defaultText = "" <;> simp [shown, empty]
  · simp [shown]

end DetailView

section Agreeing

variable {formatters formatters' : Registry} (agree : formatters.AgreeOnConcrete formatters')
  {descriptor : Descriptor} {directive : Directive} {schema : Schema}
  (built : Schema.build descriptor formatters = .ok schema)

include agree built

theorem TableView.script_of_agree (batch : List Record) :
    (ofDescriptor descriptor ⟨directive, formatters⟩).script batch =
      (ofDescriptor descriptor ⟨directive, formatters'⟩).script batch := by
  have built' := (Schema.build_congr descriptor agree.names).symm.trans built
  rw [@ofDescriptor_ok descriptor ⟨directive, formatters⟩ schema built,
    @ofDescriptor_ok descriptor ⟨directive, formatters'⟩ schema built']
  refine script_congr rfl (List.map_congr_left fun r _ => ?_)
  exact row_congr fun column _ => leafText_of_agree agree column.leaf r

theorem DetailView.script_of_agree (r : Record) :
    (ofDescriptor descriptor ⟨directive, formatters⟩).script r =
      (ofDescriptor descriptor ⟨directive, formatters'⟩).script r := by
  have built' := (Schema.build_congr descriptor agree.names).symm.trans built
  rw [@ofDescriptor_ok descriptor ⟨directive, formatters⟩ schema built,
    @ofDescriptor_ok descriptor ⟨directive, formatters'⟩ schema built']
  refine congrArg Script.join (fieldScripts_congr fun leaf _ => ⟨rfl, fun _ => ?_⟩)
  exact leafText_of_agree agree leaf r

end Agreeing

/-- Formatters that make the same of concrete values make the same reports, on every sink and in every
    run of calls: the same is written, and the same error ends it. For they never see anything else.
    A leaf without a value has its default text with every formatter, one that always refuses
    included: that is its text, its cell in every row, and its entry in a listing, which has none if
    the default text is empty. -/
theorem formatters_see_concrete_values {σ : Type u} [Sink σ] (descriptor : Descriptor)
    (directive : Directive) {formatters formatters' : Registry}
    (agree : formatters.AgreeOnConcrete formatters') (s : σ) :
    let table := TableView.ofDescriptor descriptor ⟨directive, formatters⟩
    let table' := TableView.ofDescriptor descriptor ⟨directive, formatters'⟩
    let listing := DetailView.ofDescriptor descriptor ⟨directive, formatters⟩
    let listing' := DetailView.ofDescriptor descriptor ⟨directive, formatters'⟩
    (∀ batches, (renderAll table s batches).2 = (renderAll table' s batches).2 ∧
      (renderAll table s batches).1.error = (renderAll table' s batches).1.error) ∧
    (∀ records, (renderAll listing s records).2 = (renderAll listing' s records).2 ∧
      (renderAll listing s records).1.error = (renderAll listing' s records).1.error) ∧
    (∀ (any : Registry) (leaf : Label) (r : Record), r.extract leaf.selector = none →
      leafText leaf any r = .ok leaf.defaultText ∧
      (∀ columns texts (i : Nat) (column : Column), TableView.row columns any r = .ok texts →
        columns[i]? = some column → column.leaf = leaf → texts[i]? = some leaf.defaultText) ∧
      (∀ visibility depth, DetailView.linesOf visibility any r depth (.leaf leaf) =
        .ok (if visibility.isShown leaf.id = true ∧ leaf.defaultText ≠ "" then
          [.entry depth leaf.title leaf.defaultText] else []))) := by
  intro table table' listing listing'
  have builds := Schema.build_congr descriptor agree.names
  have tables := (TableView.described descriptor ⟨directive, formatters⟩).outcome_congr
    (TableView.described descriptor ⟨directive, formatters'⟩) builds
    (fun schema built => TableView.script_of_agree agree built) s
  have listings := (DetailView.described descriptor ⟨directive, formatters⟩).outcome_congr
    (DetailView.described descriptor ⟨directive, formatters'⟩) builds
    (fun schema built => DetailView.script_of_agree agree built) s
  refine ⟨fun batches => (Prod.ext_iff.1 (tables batches)).symm,
    fun records => (Prod.ext_iff.1 (listings records)).symm, fun any leaf r absent => ?_⟩
  refine ⟨leafText_of_absent absent any, ?_, DetailView.linesOf_of_absent absent⟩
  rintro columns texts i column made here rfl
  exact TableView.row_of_absent made here absent

namespace Sample

/-- Sizes in bytes, and a refusal of all that is no concrete value. -/
def strictSize : Formatter where
  apply v r :=
    match v with
    | .nil => .error (.custom "missing")
    | .ref _ => .error (.custom "elsewhere")
    | v => Formatter.byteSize.apply v r

def strictSizes : Registry := ({} : Registry).insert Formatter.byteSizeId strictSize

theorem agree_strictSizes : Registry.AgreeOnConcrete {} strictSizes where
  names id := by
    rw [Registry.contains, Registry.contains, strictSizes]
    by_cases same : id = Formatter.byteSizeId
    · rw [same, Registry.get?_insert_self]
      rfl
    · rw [Registry.get?_insert_of_ne _ same]
  apply id f f' found found' v concrete r := by
    by_cases same : id = Formatter.byteSizeId
    · rw [same] at found
      rw [same, strictSizes, Registry.get?_insert_self] at found'
      cases found
      cases found'
      cases v with
      | nil => exact absurd rfl concrete.1
      | ref inner => exact absurd rfl (concrete.2 inner)
      | _ => rfl
    · rw [strictSizes, Registry.get?_insert_of_ne _ same, found] at found'
      cases found'
      rfl

end Sample

/-- Memory that is held elsewhere, or not known, is shown though the formatter would refuse both. -/
theorem formatters_see_concrete_values_jobs :
    let table := TableView.ofDescriptor Sample.jobs ⟨{}, Sample.strictSizes⟩
    let batch := [Sample.job "a" (.ref (.int 1536)), Sample.job "b" .nil]
    Registry.AgreeOnConcrete {} Sample.strictSizes ∧
      (renderAll table ({} : Transcript) [batch]).2.received =
        "\tUsage\t\nNAME\tTIME\tMEM\n----\t----\t---\na\t\t1.5 KiB\nb\t\t\n" ∧
      (Sample.job "b" .nil).extract Sample.memoryLeaf.selector = none ∧
      leafText Sample.memoryLeaf Sample.strictSizes (Sample.job "b" .nil) = .ok "" := by
  intro table batch
  obtain ⟨tables, -, absent⟩ :=
    formatters_see_concrete_values Sample.jobs {} Sample.agree_strictSizes ({} : Transcript)
  have missing : (Sample.job "b" .nil).extract Sample.memoryLeaf.selector = none := rfl
  refine ⟨Sample.agree_strictSizes, ?_, missing, (absent _ _ _ missing).1⟩
  rw [← (tables [batch]).1]
  decide +kernel

end StatusReport
