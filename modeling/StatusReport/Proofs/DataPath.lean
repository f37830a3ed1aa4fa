import StatusReport.Proofs.Extraction
import StatusReport.Value.Conversion

/-! # Data behind keys

Extraction from plain data follows the keys from table to table. It finds what is there, unless that
is `null`. It ends early where a table lacks the key, and at what is no table, for that lacks every
key.

* `Data.at?`: the data that keys lead to.
* `Data.at?_eq_none_iff`: where the way ends early.
* `Record.extract_ofData`: what is extracted from data as a record.
-/

namespace StatusReport

namespace Data

/-- The data that keys lead to, one after the other. -/
def at? : Data → List String → Option Data
  | d, [] => some d
  | d, key :: rest => (d.get? key).bind (at? · rest)

@[simp] theorem at?_nil (d : Data) : d.at? [] = some d := by
  simp [at?]

theorem at?_cons (d : Data) (key : String) (rest : List String) :
    d.at? (key :: rest) = (d.get? key).bind (·.at? rest) := by
  simp [at?]

theorem get?_eq_none_iff {d : Data} {key : String} :
    d.get? key = none ↔
      (∃ entries, d = .table entries ∧ key ∉ Entries.keys entries) ∨ ∀ entries, d ≠ .table entries := by
  cases d with
  | table entries => simp [get?, Entries.get?_eq_none_iff]
  | _ => simp [get?]

theorem at?_eq_none_iff {d : Data} {selector : List String} :
    d.at? selector = none ↔ ∃ before key rest reached,
      selector = before ++ key :: rest ∧ d.at? before = some reached ∧ reached.get? key = none := by
  constructor
  · intro nothing
    induction selector generalizing d with
    | nil => cases nothing
    | cons key rest ih =>
      cases found : d.get? key with
      | none => exact ⟨[], key, rest, d, rfl, at?_nil d, found⟩
      | some inner =>
        rw [at?_cons, found, Option.bind_some] at nothing
        obtain ⟨before, last, others, reached, rfl, way, missing⟩ := ih nothing
        exact ⟨key :: before, last, others, reached, rfl, by rw [at?_cons, found]; exact way, missing⟩
  · rintro ⟨before, key, rest, reached, rfl, way, missing⟩
    induction before generalizing d with
    | nil =>
      cases way
      rw [List.nil_append, at?_cons, missing, Option.bind_none]
    | cons first before ih =>
      rw [at?_cons] at way
      obtain ⟨inner, found, way⟩ := Option.bind_eq_some_iff.1 way
      rw [List.cons_append, at?_cons, found, Option.bind_some, ih way]

end Data

/-! ## Extraction -/

/-- Data are no indirection, and missing only if they are `null`. -/
theorem Value.concrete?_ofData {d : Data} (present : d ≠ .null) :
    (ofData d).concrete? = some (ofData d) := by
  cases d with
  | null => exact absurd rfl present
  | integer n =>
    rw [ofData, ofInt]
    split
    · rfl
    · split <;> rfl
  | _ => rfl

theorem Value.record?_ofData (d : Data) :
    (ofData d).concrete?.bind record? = some (.ofData d) ∨
      (ofData d).concrete?.bind record? = none ∧ ∀ key, d.get? key = none := by
  cases d with
  | table entries => exact .inl (by rw [← Record.ofData_table]; rfl)
  | null => exact .inr ⟨rfl, fun _ => rfl⟩
  | integer n =>
    refine .inr ⟨?_, fun _ => rfl⟩
    rw [@concrete?_ofData (.integer n) nofun, Option.bind_some, ofData, ofInt]
    split
    · rfl
    · split <;> rfl
  | _ => exact .inr ⟨rfl, fun _ => rfl⟩

namespace Record

theorem extract_singleton_ofData (d : Data) (key : String) :
    (ofData d).extract [key] = (d.get? key).bind fun x => (Value.ofData x).concrete? := by
  rw [extract_singleton, ofData]
  cases found : d.get? key <;> simp [Data.getD, found, Value.ofData]

/-- What is extracted from data as a record is what the keys lead to. -/
theorem extract_ofData (d : Data) {selector : List String} (filled : selector ≠ []) :
    (ofData d).extract selector = (d.at? selector).bind fun x => (Value.ofData x).concrete? := by
  induction selector generalizing d with
  | nil => exact absurd rfl filled
  | cons key rest ih =>
    by_cases single : rest = []
    · rw [single, extract_singleton_ofData, Data.at?_cons]
      simp
    · rw [extract_cons_of_ne_nil _ key single, extract_singleton_ofData, Data.at?_cons]
      cases d.get? key with
      | none => rfl
      | some inner =>
        rw [Option.bind_some, Option.bind_some]
        obtain same | ⟨other, missing⟩ := Value.record?_ofData inner
        · rw [same, Option.bind_some, ih inner single]
        · -- The keys that are left lead nowhere from what is no table.
          obtain ⟨next, more, rfl⟩ := List.exists_cons_of_ne_nil single
          rw [other, Data.at?_cons, missing, Option.bind_none, Option.bind_none, Option.bind_none]

end Record

end StatusReport
