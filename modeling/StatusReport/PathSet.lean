import StatusReport.Ascending

/-! # Sets of paths

A set of dotted paths is kept as an ascending list, so that equal sets are equal lists.
-/

namespace StatusReport

/-- A set of dotted paths. -/
structure PathSet where
  paths : List String
  sorted : Ascending paths
deriving DecidableEq

namespace PathSet

def empty : PathSet := ⟨[], .nil⟩

instance : EmptyCollection PathSet := ⟨empty⟩
instance : Inhabited PathSet := ⟨empty⟩

def insert (s : PathSet) (path : String) : PathSet :=
  ⟨insertAscending path s.paths, s.sorted.insert⟩

def insertAll (s : PathSet) (paths : List String) : PathSet := paths.foldl insert s

def ofList (paths : List String) : PathSet := empty.insertAll paths

instance : Membership String PathSet := ⟨fun s path => path ∈ s.paths⟩

instance (path : String) (s : PathSet) : Decidable (path ∈ s) :=
  inferInstanceAs (Decidable (path ∈ s.paths))

theorem mem_paths {path : String} {s : PathSet} : path ∈ s ↔ path ∈ s.paths := Iff.rfl

@[simp] theorem not_mem_empty (path : String) : path ∉ (∅ : PathSet) := List.not_mem_nil

@[simp] theorem mem_insert {p path : String} {s : PathSet} :
    p ∈ s.insert path ↔ p = path ∨ p ∈ s := mem_insertAscending

@[simp] theorem mem_insertAll {p : String} {s : PathSet} {paths : List String} :
    p ∈ s.insertAll paths ↔ p ∈ paths ∨ p ∈ s := by
  induction paths generalizing s with
  | nil => simp [insertAll]
  | cons q rest ih =>
    rw [show s.insertAll (q :: rest) = (s.insert q).insertAll rest from rfl, ih]
    simp only [mem_insert, List.mem_cons]
    grind

theorem mem_ofList {p : String} {paths : List String} : p ∈ ofList paths ↔ p ∈ paths := by
  simp [ofList, show p ∉ empty from List.not_mem_nil]

theorem paths_insertAll {s : PathSet} {paths : List String} (sorted : Ascending (s.paths ++ paths)) :
    (s.insertAll paths).paths = s.paths ++ paths := by
  induction paths generalizing s with
  | nil => simp [insertAll]
  | cons q rest ih =>
    have above : ∀ t ∈ s.paths, t < q := fun t ht =>
      (List.pairwise_append.1 sorted).2.2 t ht q List.mem_cons_self
    have inserted : (s.insert q).paths = s.paths ++ [q] := insertAscending_of_above above
    rw [List.append_cons, ← inserted] at sorted
    rw [show s.insertAll (q :: rest) = (s.insert q).insertAll rest from rfl, ih sorted, inserted,
      ← List.append_cons]

theorem ofList_paths (s : PathSet) : ofList s.paths = s := by
  have start : Ascending (empty.paths ++ s.paths) := s.sorted
  exact (PathSet.mk.injEq ..).mpr (paths_insertAll start)

end PathSet

end StatusReport
