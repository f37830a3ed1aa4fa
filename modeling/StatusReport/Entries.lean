import StatusReport.Ascending

/-! # Entries sorted by key

A table of entries is a list of keys with their values, in ascending order of the keys. Putting an
entry replaces the one with the same key.

* `Entries.insert`: puts an entry.
* `Entries.get?`: the value under a key.
-/

namespace StatusReport

abbrev Entries (α : Type u) := List (String × α)

namespace Entries

variable {α : Type u}

/-- Puts an entry at its place, in the stead of one with the same key. -/
def insert (key : String) (value : α) : Entries α → Entries α
  | [] => [(key, value)]
  | (k, v) :: rest =>
    if key < k then (key, value) :: (k, v) :: rest
    else if key = k then (key, value) :: rest
    else (k, v) :: insert key value rest

def get? (key : String) : Entries α → Option α
  | [] => none
  | (k, v) :: rest => if key = k then some v else get? key rest

def contains (entries : Entries α) (key : String) : Bool := (get? key entries).isSome

def keys (entries : Entries α) : List String := entries.map (·.1)

@[simp] theorem get?_nil (key : String) : get? key ([] : Entries α) = none := rfl

@[simp] theorem get?_insert_self (key : String) (value : α) (entries : Entries α) :
    get? key (insert key value entries) = some value := by
  induction entries with
  | nil => simp [insert, get?]
  | cons entry rest ih =>
    obtain ⟨k, v⟩ := entry
    by_cases hlt : key < k
    · simp [insert, hlt, get?]
    · by_cases heq : key = k
      · simp [insert, heq, get?]
      · simp [insert, hlt, heq, get?, ih]

theorem get?_insert_of_ne {key other : String} (h : other ≠ key) (value : α)
    (entries : Entries α) : get? other (insert key value entries) = get? other entries := by
  induction entries with
  | nil => simp [insert, get?, h]
  | cons entry rest ih =>
    obtain ⟨k, v⟩ := entry
    by_cases hlt : key < k
    · simp [insert, hlt, get?, h]
    · by_cases heq : key = k
      · subst heq
        simp [insert, get?, h]
      · simp [insert, hlt, heq, get?, ih]

theorem isSome_get? {key : String} {entries : Entries α} :
    (get? key entries).isSome ↔ key ∈ entries.keys := by
  induction entries with
  | nil => simp [get?, keys]
  | cons entry rest ih =>
    obtain ⟨k, v⟩ := entry
    rw [keys] at ih
    by_cases h : key = k <;> simp [get?, keys, h, ih]

theorem get?_eq_none_iff {key : String} {entries : Entries α} :
    get? key entries = none ↔ key ∉ entries.keys := by
  rw [← isSome_get?, Option.not_isSome_iff_eq_none]

theorem get?_append (key : String) (a b : Entries α) :
    get? key (a ++ b) = (get? key a).or (get? key b) := by
  induction a with
  | nil => rfl
  | cons entry rest ih =>
    obtain ⟨k, v⟩ := entry
    by_cases h : key = k <;> simp [get?, h, ih]

/-- Of the entries that are put one after the other, the last one of a key counts. -/
theorem get?_foldl_insert (key : String) (written entries : Entries α) :
    get? key (written.foldl (fun table (k, v) => insert k v table) entries) =
      (get? key written.reverse).or (get? key entries) := by
  induction written generalizing entries with
  | nil => rfl
  | cons entry rest ih =>
    obtain ⟨k, v⟩ := entry
    rw [List.foldl_cons, ih, List.reverse_cons, get?_append, Option.or_assoc]
    by_cases h : key = k
    · simp [get?, h]
    · simp [get?, h, get?_insert_of_ne h]

@[simp] theorem keys_insert (key : String) (value : α) (entries : Entries α) :
    (insert key value entries).keys = insertAscending key entries.keys := by
  simp only [keys]
  induction entries with
  | nil => rfl
  | cons entry rest ih =>
    obtain ⟨k, v⟩ := entry
    by_cases hlt : key < k
    · simp [insert, insertAscending, hlt]
    · by_cases heq : key = k
      · simp [insert, insertAscending, heq]
      · simp [insert, insertAscending, hlt, heq, ih]

end Entries

end StatusReport
