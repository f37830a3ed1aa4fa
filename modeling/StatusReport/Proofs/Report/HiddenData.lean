import Mathlib.Data.List.Forall2
import StatusReport.Proofs.Report.ShownColumns
import StatusReport.Settings.Alias

/-! # Hidden data

A report asks a record for the values of its shown leaves, and hands them to formatters. A formatter
that does not look at the record behind a value makes the same of equal values. So two records that
agree on the shown leaves make the same report: the same lines and headers, and the same error. What
else they hold never shows, not even where a formatter would refuse it.

* `Formatter.IgnoresRecord`, `Registry.IgnoreRecords`: formatters that look at values alone.
* `AliasTable.ignoreRecords_resolve`: built-in formatters under further names do.
* `SameShown`: records that agree on the shown leaves.
* `hidden_data_without_influence`: such records make the same tables and the same listings.
-/

namespace StatusReport

/-! ## Formatters that look at values alone -/

def Formatter.IgnoresRecord (f : Formatter) : Prop := ∀ v r r', f.apply v r = f.apply v r'

def Registry.IgnoreRecords (formatters : Registry) : Prop :=
  ∀ id f, formatters.get? id = some f → f.IgnoresRecord

theorem Formatter.ignoresRecord_ofValue (f : Value → Except FormatError String) :
    (Formatter.ofValue f).IgnoresRecord := fun _ _ _ => rfl

namespace Registry

theorem ignoreRecords_empty : empty.IgnoreRecords := by
  intro id f found
  simp only [get?_empty, builtins, Entries.get?] at found
  split at found
  · cases found
    exact Formatter.ignoresRecord_ofValue _
  · split at found
    · cases found
      exact Formatter.ignoresRecord_ofValue _
    · split at found
      · cases found
        exact Formatter.ignoresRecord_ofValue _
      · cases found

theorem IgnoreRecords.insert {formatters : Registry} (ignore : formatters.IgnoreRecords)
    (name : String) {f : Formatter} (ignores : f.IgnoresRecord) :
    (formatters.insert name f).IgnoreRecords := by
  intro id g found
  by_cases same : id = name
  · rw [same, get?_insert_self] at found
    cases found
    exact ignores
  · rw [get?_insert_of_ne formatters same] at found
    exact ignore id g found

theorem IgnoreRecords.withAlias {formatters more : Registry} {name target : String}
    (ignore : formatters.IgnoreRecords) (made : formatters.withAlias name target = .ok more) :
    more.IgnoreRecords := by
  rw [Registry.withAlias] at made
  cases found : formatters.get? target with
  | none =>
    rw [found] at made
    cases made
  | some f =>
    rw [found] at made
    cases made
    exact ignore.insert name (ignore target f found)

end Registry

namespace AliasTable

theorem ignoreRecords_resolveFrom {entries : Entries String} {formatters more : Registry}
    (ignore : formatters.IgnoreRecords) (made : resolveFrom entries formatters = .ok more) :
    more.IgnoreRecords := by
  induction entries generalizing formatters with
  | nil =>
    cases made
    exact ignore
  | cons entry rest ih =>
    obtain ⟨name, target⟩ := entry
    rw [resolveFrom] at made
    cases aliased : formatters.withAlias name target with
    | error e =>
      rw [aliased] at made
      cases made
    | ok next =>
      rw [aliased] at made
      exact ih (ignore.withAlias aliased) made

/-- Built-in formatters look at values alone, under whatever names. -/
theorem ignoreRecords_resolve {t : AliasTable} {formatters : Registry}
    (made : t.resolve .empty = .ok formatters) : formatters.IgnoreRecords :=
  ignoreRecords_resolveFrom Registry.ignoreRecords_empty made

end AliasTable

/-! ## Records that agree on what is shown -/

/-- Two records have the same value, or both none, at every leaf that is shown. -/
def SameShown (descriptor : Descriptor) (options : ViewOptions) (r r' : Record) : Prop :=
  ∀ schema, Schema.build descriptor options.formatters = .ok schema →
    ∀ leaf ∈ schema.leaves, (Visibility.resolve schema options.directive).isShown leaf.id = true →
      r.extract leaf.selector = r'.extract leaf.selector

theorem leafText_of_same {formatters : Registry} (ignore : formatters.IgnoreRecords) {leaf : Label}
    {r r' : Record} (same : r.extract leaf.selector = r'.extract leaf.selector) :
    leafText leaf formatters r = leafText leaf formatters r' := by
  have values (v : Value) : valueText leaf formatters r v = valueText leaf formatters r' v := by
    simp only [valueText]
    cases leaf.formatter with
    | none => rfl
    | some id =>
      cases found : formatters.get? id with
      | none => simp only [found]
      | some f => simp only [found, ignore id f found v r r']
  simp only [leafText, same, values]

section Reports

variable {descriptor : Descriptor} {options : ViewOptions} {schema : Schema}
  (built : Schema.build descriptor options.formatters = .ok schema)
  (ignore : options.formatters.IgnoreRecords)

include built ignore

theorem TableView.script_of_same {records records' : List Record}
    (same : List.Forall₂ (SameShown descriptor options) records records') :
    (ofDescriptor descriptor options).script records =
      (ofDescriptor descriptor options).script records' := by
  refine script_congr rfl ?_
  rw [ofDescriptor_ok built]
  induction same with
  | nil => rfl
  | cons first _ ih =>
    -- Columns are shown leaves, and of these the records agree on the text.
    have row := row_congr fun column (hc : column ∈ StatusReport.columns schema _) =>
      leafText_of_same ignore (first schema built column.leaf (mem_columns hc).1 (mem_columns hc).2)
    rw [List.map_cons, List.map_cons, row, ih]

theorem DetailView.script_of_same {r r' : Record} (same : SameShown descriptor options r r') :
    (ofDescriptor descriptor options).script r = (ofDescriptor descriptor options).script r' := by
  rw [ofDescriptor_ok built]
  refine congrArg Script.join (fieldScripts_congr fun leaf member => ⟨rfl, fun shown => ?_⟩)
  exact leafText_of_same ignore (same schema built leaf member shown)

end Reports

/-- Built-in formatters look at values alone, under whatever names. With formatters that do, records
    that agree on the shown leaves one by one make the same table, with the same error, and each of
    them makes the same listing, whatever the sink. -/
theorem hidden_data_without_influence {σ : Type u} [Sink σ] (descriptor : Descriptor)
    (options : ViewOptions) (s : σ) :
    let table := TableView.ofDescriptor descriptor options
    let listing := DetailView.ofDescriptor descriptor options
    (∀ (aliases : AliasTable) formatters, aliases.resolve .empty = .ok formatters →
      formatters.IgnoreRecords) ∧
    (options.formatters.IgnoreRecords →
      (∀ records records', List.Forall₂ (SameShown descriptor options) records records' →
        table.render s records = table.render s records') ∧
      (∀ r r', SameShown descriptor options r r' → listing.render s r = listing.render s r')) := by
  intro table listing
  refine ⟨fun _ _ => AliasTable.ignoreRecords_resolve, fun ignore => ?_⟩
  cases built : Schema.build descriptor options.formatters with
  | error e =>
    -- Without a schema nothing is rendered at all.
    simp only [table, listing, TableView.ofDescriptor_error built,
      DetailView.ofDescriptor_error built]
    exact ⟨fun _ _ _ => rfl, fun _ _ _ => rfl⟩
  | ok schema =>
    refine ⟨fun records records' same => ?_, fun r r' same => ?_⟩
    · rw [TableView.render_eq, TableView.render_eq, TableView.script_of_same built ignore same]
    · rw [DetailView.render_eq, DetailView.render_eq, DetailView.script_of_same built ignore same]

/-- While the memory of jobs is hidden, one that its formatter would refuse makes the same table and
    the same listing as any other. -/
theorem hidden_data_without_influence_jobs :
    let options := ({} : ViewOptions).addHidden "memory"
    let table := TableView.ofDescriptor Sample.jobs options
    let listing := DetailView.ofDescriptor Sample.jobs options
    let fine := Sample.job "a" (.int 1536)
    let refused := Sample.job "a" (.str "?")
    SameShown Sample.jobs options refused fine ∧
      table.render ({} : Transcript) [refused] = table.render {} [fine] ∧
      listing.render ({} : Transcript) refused = listing.render {} fine ∧
      (table.render ({} : Transcript) [refused]).1.result = .ok () := by
  intro options table listing fine refused
  have same : SameShown Sample.jobs options refused fine := by
    intro schema built leaf member shown
    cases Sample.build_jobs.symm.trans built
    rw [Sample.leaves_schema] at member
    simp only [List.mem_cons, List.not_mem_nil, or_false] at member
    obtain rfl | rfl | rfl := member
    · rfl
    · rfl
    · have hidden : (Visibility.resolve Sample.schema options.directive).isShown 4 = false := by decide
      cases hidden.symm.trans shown
  obtain ⟨names, reports⟩ := hidden_data_without_influence Sample.jobs options ({} : Transcript)
  obtain ⟨tables, listings⟩ := reports (names ∅ options.formatters rfl)
  have tabled := tables [refused] [fine] (.cons same .nil)
  refine ⟨same, tabled, listings refused fine same, ?_⟩
  rw [tabled]
  rfl

end StatusReport
