import StatusReport.Proofs.DataPath
import StatusReport.Proofs.Number.Digits
import StatusReport.Proofs.Report.ListingShape
import StatusReport.Proofs.Schema.Walk

/-! # Default texts

A leaf without a formatter has the text of the value itself. The default text stands in for it where
there is no text, and that is where the value is absent, an empty text, or a record that displays
nothing. Numbers, truth values and lists have a text whatever they are, and a table of plain data
displays itself, so of data only `null`, the empty text and what is not there are replaced.

* `Record.BlankAt`, `Data.BlankAt`: where a record, or data as a record, have no text.
* `leafText_of_blank`, `leafText_of_filled`: the text of a leaf without a formatter.
* `PrintedAs`: a leaf that has a text in every report.
* `default_text_replaces_emptiness`: what is replaced by the default text, and what never is.
-/

namespace StatusReport

/-! ## Values without text -/

namespace Value

theorem text_ne_empty {v : Value} (kind : v.kind ∈ [.bool, .int, .uint, .float, .list]) :
    v.text ≠ "" := by
  cases v with
  | bool b => cases b <;> decide
  | int i =>
    have digits := (Number.spells_digits i.toInt.natAbs).nonempty
    simpa [text, Number.intText] using Number.signed_ne_nil digits _
  | uint u => simpa [text] using (Number.spells_digits u.toNat).nonempty
  | float x => exact Number.Binary64.fixed_ne_empty (by decide) x
  | list items => simp [text]
  | _ => simp [Value.kind] at kind

theorem text_ofData_eq_empty_iff {d : Data} : (ofData d).text = "" ↔ d = .null ∨ d = .text "" := by
  have number (n : Int) : (ofInt n).kind ∈ [.bool, .int, .uint, .float, .list] := by
    rw [ofInt]
    split
    · simp [kind]
    · split <;> simp [kind]
  cases d with
  | null => simp [ofData, text]
  | text s => simp [ofData, text]
  | table entries => simp [ofData, text, Json.compact]
  | bool b => simpa [ofData] using text_ne_empty (v := .bool b) (by simp [kind])
  | integer n => simpa [ofData] using text_ne_empty (number n)
  | real x => simpa [ofData] using text_ne_empty (v := .float x) (by simp [kind])
  | list items => simpa [ofData] using text_ne_empty (v := .list (ofItems items)) (by simp [kind])

mutual

/-- Indirections around the values of fields are not seen in a text. -/
theorem text_wrap (layers : Layers) (v : Value) : (v.wrap layers).text = v.text := by
  cases v with
  | list items => rw [wrap, text, text, texts_wrapItems]
  | ref inner => exact text_wrap layers inner
  | _ => rfl

theorem texts_wrapItems (layers : Layers) (i : Nat) (items : List Value) :
    texts (wrapItems layers i items) = texts items := by
  cases items with
  | nil => rfl
  | cons v rest => rw [wrapItems, texts, texts, text_wrap, texts_wrapItems]

end

end Value

/-! ## Where there is no text -/

/-- A record has no text at a selector: the value there is absent, or an empty text, or a record that
    displays nothing. -/
inductive Record.BlankAt (r : Record) (selector : List String) : Prop where
  | absent (missing : r.extract selector = none)
  | emptyText (found : r.extract selector = some (.str ""))
  | emptyRecord {field : String → Value} (found : r.extract selector = some (.record field ""))

theorem Record.blankAt_iff {r : Record} {selector : List String} :
    r.BlankAt selector ↔ ∀ v, r.extract selector = some v → v.text = "" := by
  constructor
  · rintro (missing | found | found) v here
    · cases missing.symm.trans here
    · cases found.symm.trans here
      rfl
    · cases found.symm.trans here
      rfl
  · intro empty
    cases found : r.extract selector with
    | none => exact .absent found
    | some v =>
      -- Of the values that can be extracted only two kinds may have no text.
      obtain ⟨present, direct⟩ := extract_concrete found
      have blank : v.text = "" := empty v found
      cases v with
      | nil => exact absurd rfl present
      | ref inner => exact absurd rfl (direct inner)
      | str s =>
        obtain rfl : s = "" := blank
        exact .emptyText found
      | record field displayText =>
        obtain rfl : displayText = "" := blank
        exact .emptyRecord found
      | _ => exact absurd blank (Value.text_ne_empty (by simp [Value.kind]))

/-- Data have no text behind keys: a table on the way lacks the key, or something on the way is no
    table, or what the keys lead to is `null` or an empty text. -/
inductive Data.BlankAt (d : Data) (selector : List String) : Prop where
  | missingKey {before rest : List String} {key : String} {entries : List (String × Data)}
      (split : selector = before ++ key :: rest) (reached : d.at? before = some (.table entries))
      (missing : key ∉ Entries.keys entries)
  | noTable {before rest : List String} {key : String} {other : Data}
      (split : selector = before ++ key :: rest) (reached : d.at? before = some other)
      (noTable : ∀ entries, other ≠ .table entries)
  | null (reached : d.at? selector = some .null)
  | emptyText (reached : d.at? selector = some (.text ""))

theorem Data.blankAt_iff {d : Data} {selector : List String} :
    d.BlankAt selector ↔ ∀ x, d.at? selector = some x → x = .null ∨ x = .text "" := by
  constructor
  · intro blank x here
    have gone (nothing : d.at? selector = none) : x = .null ∨ x = .text "" := by
      cases nothing.symm.trans here
    cases blank with
    | missingKey split reached missing =>
      refine gone (at?_eq_none_iff.2 ⟨_, _, _, _, split, reached, ?_⟩)
      exact get?_eq_none_iff.2 (.inl ⟨_, rfl, missing⟩)
    | noTable split reached noTable =>
      refine gone (at?_eq_none_iff.2 ⟨_, _, _, _, split, reached, ?_⟩)
      exact get?_eq_none_iff.2 (.inr noTable)
    | null reached => exact .inl (Option.some.inj (here.symm.trans reached))
    | emptyText reached => exact .inr (Option.some.inj (here.symm.trans reached))
  -- The way to the data ends early or not, which decides between the four reasons.
  · intro blank
    cases reached : d.at? selector with
    | none =>
      obtain ⟨before, key, rest, last, split, way, missing⟩ := at?_eq_none_iff.1 reached
      obtain ⟨entries, rfl, absent⟩ | noTable := get?_eq_none_iff.1 missing
      · exact .missingKey split way absent
      · exact .noTable split way noTable
    | some x =>
      obtain rfl | rfl := blank x reached
      · exact .null reached
      · exact .emptyText reached

theorem Record.blankAt_ofData_iff {d : Data} {selector : List String} (filled : selector ≠ []) :
    (ofData d).BlankAt selector ↔ d.BlankAt selector := by
  rw [blankAt_iff, Data.blankAt_iff, extract_ofData d filled]
  cases d.at? selector with
  | none => simp
  | some x =>
    simp only [Option.bind_some, Option.some.injEq, forall_eq']
    by_cases missing : x = .null
    · simp [missing, Value.ofData]
    · rw [Value.concrete?_ofData missing, ← Value.text_ofData_eq_empty_iff]
      simp

/-! ## The text of a leaf -/

section Leaves

variable {leaf : Label} (unformatted : leaf.formatter = none) (formatters : Registry)
include unformatted

theorem leafText_of_unformatted (r : Record) :
    leafText leaf formatters r =
      .ok (orDefault leaf (((r.extract leaf.selector).map Value.text).getD "")) := by
  rw [leafText]
  cases r.extract leaf.selector with
  | none => rfl
  | some v => simp only [valueText, unformatted]; rfl

theorem leafText_of_blank {r : Record} (blank : r.BlankAt leaf.selector) :
    leafText leaf formatters r = .ok leaf.defaultText := by
  have empty : ((r.extract leaf.selector).map Value.text).getD "" = "" := by
    cases found : r.extract leaf.selector with
    | none => rfl
    | some v => exact Record.blankAt_iff.1 blank v found
  rw [leafText_of_unformatted unformatted, empty, orDefault, if_pos rfl]

theorem leafText_of_filled {r : Record} {v : Value} (found : r.extract leaf.selector = some v)
    (filled : v.text ≠ "") : leafText leaf formatters r = .ok v.text := by
  rw [leafText_of_unformatted unformatted, found, Option.map_some, Option.getD_some, orDefault,
    if_neg filled]

theorem leafText_wrap (layers : Layers) (r : Record) :
    leafText leaf formatters (r.wrap layers) = leafText leaf formatters r := by
  rw [leafText_of_unformatted unformatted, leafText_of_unformatted unformatted, Record.extract_wrap,
    Option.map_map]
  simp only [Function.comp_def, Value.text_wrap]

theorem leafText_ofData {d x : Data} (own : leaf.selector ≠ []) (reached : d.at? leaf.selector = some x)
    (present : x ≠ .null) (filled : x ≠ .text "") :
    (Value.ofData x).text ≠ "" ∧
      leafText leaf formatters (.ofData d) = .ok (Value.ofData x).text := by
  have text : (Value.ofData x).text ≠ "" := by
    rw [Ne, Value.text_ofData_eq_empty_iff]
    exact not_or.2 ⟨present, filled⟩
  refine ⟨text, leafText_of_filled unformatted formatters ?_ text⟩
  rw [Record.extract_ofData d own, reached, Option.bind_some, Value.concrete?_ofData present]

end Leaves

/-! ## Reports -/

/-- A leaf has a text in every report on a record: in its column of the row, and, if it is shown, in
    an entry of its own of a listing that ends without an error. -/
structure PrintedAs (descriptor : Descriptor) (options : ViewOptions) (leaf : Label) (r : Record)
    (text : String) : Prop where
  text_eq : leafText leaf options.formatters r = .ok text
  cell : ∀ texts (i : Nat) column,
    TableView.row (TableView.ofDescriptor descriptor options).columns options.formatters r =
      .ok texts →
    (TableView.ofDescriptor descriptor options).columns[i]? = some column → column.leaf = leaf →
    texts[i]? = some text
  entry : (DetailView.ofDescriptor descriptor options).visibility.isShown leaf.id = true →
    ((DetailView.ofDescriptor descriptor options).render ({} : Transcript) r).1.result = .ok () →
    ∃ before depth after,
      ((DetailView.ofDescriptor descriptor options).render ({} : Transcript) r).2.received =
        unlines (before ++
          (String.ofList (List.replicate (2 * depth) ' ') ++ (leaf.title ++ ":\t" ++ text)) :: after)

namespace DetailView

theorem entry_of_fills {view : DetailView} {schema : Schema} (roots : view.roots = schema.roots)
    {leaf : Label} (member : leaf ∈ schema.leaves) {r : Record} {text : String}
    (fills : view.Fills r leaf text) {lines : List Line} (made : view.lines r = .ok lines) :
    ∃ depth, .entry depth leaf.title text ∈ lines := by
  obtain ⟨around, lineage⟩ := lineage_of_leaf member
  have walk : linesOfAll view.visibility view.formatters r (boxesAmong []) schema.roots = .ok lines :=
    roots ▸ made
  have line : view.lineAt r ⟨.leaf leaf, around⟩ =
      some (.entry (boxesAmong around) leaf.title text) := by
    rw [lineAt_leaf, filledText?_eq_some_iff.2 fills, Option.map_some]
  refine ⟨boxesAmong around, ?_⟩
  rw [linesOfAll_eq [] walk]
  exact List.mem_map_of_mem (mem_produced.2 ⟨Schema.mem_places_iff.2 lineage, line⟩)

end DetailView

section Printed

variable {descriptor : Descriptor} {options : ViewOptions} {schema : Schema}
  (built : Schema.build descriptor options.formatters = .ok schema) {leaf : Label}
  (member : leaf ∈ schema.leaves)
include built member

theorem printedAs_of_text {r : Record} {text : String}
    (made : leafText leaf options.formatters r = .ok text) (filled : text ≠ "") :
    PrintedAs descriptor options leaf r text where
  text_eq := made
  cell := by
    rintro texts i column row here rfl
    obtain ⟨own, same, cell⟩ := TableView.getElem?_row row here
    cases made.symm.trans same
    exact cell
  entry := by
    have view := DetailView.ofDescriptor_ok built
    intro shown ended
    have fresh : (DetailView.ofDescriptor descriptor options).error = none := by rw [view]
    obtain ⟨lines, walked⟩ := DetailView.lines_of_ended fresh ended
    obtain ⟨depth, entry⟩ := DetailView.entry_of_fills (by rw [view]) member
      ⟨shown, by rw [view]; exact made, filled⟩ walked
    obtain ⟨before, after, rfl⟩ := List.append_of_mem entry
    rw [DetailView.received_of_lines fresh walked, DetailView.listingText, List.map_append,
      List.map_cons]
    exact ⟨_, depth, _, rfl⟩

/-- For every leaf without a formatter, the default text stands in where the value is absent, or an
    empty text, or a record that displays nothing, and nowhere else: everywhere else the leaf has the
    text of the value, which is not empty. So no truth value, number or list is ever replaced, and
    indirections on the way to a value or inside of it make no difference. Of plain data the default
    text stands in for what is not there, because a key is missing or something on the way is no
    table, for `null` and for the empty text. All else is printed, in tables and in listings. -/
theorem default_text_replaces_emptiness (unformatted : leaf.formatter = none) :
    (∀ r : Record,
      (r.BlankAt leaf.selector → leafText leaf options.formatters r = .ok leaf.defaultText) ∧
      (¬ r.BlankAt leaf.selector → ∃ v, r.extract leaf.selector = some v ∧ v.text ≠ "" ∧
        leafText leaf options.formatters r = .ok v.text) ∧
      (∀ v, r.extract leaf.selector = some v → v.kind ∈ [.bool, .int, .uint, .float, .list] →
        v.text ≠ "" ∧ leafText leaf options.formatters r = .ok v.text) ∧
      (∀ layers, leafText leaf options.formatters (r.wrap layers) =
        leafText leaf options.formatters r)) ∧
    (∀ d : Data,
      ((Record.ofData d).BlankAt leaf.selector ↔ d.BlankAt leaf.selector) ∧
      (∀ x, d.at? leaf.selector = some x → x ≠ .null → x ≠ .text "" →
        (Value.ofData x).text ≠ "" ∧
          PrintedAs descriptor options leaf (.ofData d) (Value.ofData x).text)) := by
  have own : leaf.selector ≠ [] := (Schema.build_eq_ok_iff.1 built).2.selector_ne_nil member
  refine ⟨fun r => ⟨leafText_of_blank unformatted _, fun filled => ?_, fun v found kind => ?_,
    fun layers => leafText_wrap unformatted _ layers r⟩, fun d => ⟨Record.blankAt_ofData_iff own,
    fun x reached present filled => ?_⟩⟩
  · rw [Record.blankAt_iff] at filled
    push Not at filled
    obtain ⟨v, found, text⟩ := filled
    exact ⟨v, found, text, leafText_of_filled unformatted _ found text⟩
  · have text := Value.text_ne_empty kind
    exact ⟨text, leafText_of_filled unformatted _ found text⟩
  · obtain ⟨text, made⟩ := leafText_ofData unformatted options.formatters own reached present filled
    exact ⟨text, printedAs_of_text built member made text⟩

end Printed

namespace Sample

/-- A field of the result of a test. What there is no text for is a dash. -/
def resultSpec (key : String) : FieldSpec := { key, defaultText := some "-" }

def resultKeys : List String := ["failed", "notes", "ok", "owner", "tags"]

def result : Descriptor where
  name := "Result"
  fields := resultKeys.map fun key => .scalar (resultSpec key)

def resultLeaf (key : String) (id : Nat) : Label := Schema.labelOf [] [] (resultSpec key) id

def resultSchema : Schema :=
  ⟨"Result", resultKeys.mapIdx fun i key => .leaf (resultLeaf key (i + 1)), 6⟩

theorem build_result : Schema.build result {} = .ok resultSchema := rfl

/-- A result without failures, notes and tags, which is not confirmed and has no owner. -/
def cleanResult : Data :=
  .table [("failed", .integer 0), ("notes", .table []), ("ok", .bool false), ("owner", .null),
    ("tags", .list [])]

end Sample

/-- Zero, `false`, the empty list and the empty table are printed, and `null` is replaced. -/
theorem default_text_replaces_emptiness_result :
    let r := Record.ofData Sample.cleanResult
    let listed := (DetailView.ofDescriptor Sample.result {}).render ({} : Transcript) r
    PrintedAs Sample.result {} (Sample.resultLeaf "failed" 1) r "0" ∧
      PrintedAs Sample.result {} (Sample.resultLeaf "notes" 2) r "\x7b\x7d" ∧
      PrintedAs Sample.result {} (Sample.resultLeaf "ok" 3) r "false" ∧
      PrintedAs Sample.result {} (Sample.resultLeaf "tags" 5) r "[]" ∧
      leafText (Sample.resultLeaf "owner" 4) {} r = .ok "-" ∧
      listed.1.result = .ok () ∧
      listed.2.received =
        "failed:\t0\nnotes:\t\x7b\x7d\nok:\tfalse\nowner:\t-\ntags:\t[]\n" := by
  intro r listed
  have laws (leaf : Label) (member : leaf ∈ Sample.resultSchema.leaves)
      (unformatted : leaf.formatter = none) :=
    @default_text_replaces_emptiness Sample.result {} _ Sample.build_result leaf member unformatted
  have printed (key : String) (id : Nat) (x : Data)
      (member : Sample.resultLeaf key id ∈ Sample.resultSchema.leaves)
      (reached : Sample.cleanResult.at? [key] = some x) (present : x ≠ .null) (filled : x ≠ .text "") :
      PrintedAs Sample.result {} (Sample.resultLeaf key id) r (Value.ofData x).text :=
    (((laws _ member rfl).2 Sample.cleanResult).2 x reached present filled).2
  have owner : (Record.ofData Sample.cleanResult).BlankAt ["owner"] :=
    (((laws (Sample.resultLeaf "owner" 4) (by decide) rfl).2 Sample.cleanResult).1).2 (.null rfl)
  refine ⟨printed _ _ (.integer 0) (by decide) rfl nofun nofun,
    printed _ _ (.table []) (by decide) rfl nofun nofun,
    printed _ _ (.bool false) (by decide) rfl nofun nofun,
    printed _ _ (.list []) (by decide) rfl nofun nofun,
    ((laws _ (by decide) rfl).1 r).1 owner, by rfl, by decide +kernel⟩

end StatusReport
