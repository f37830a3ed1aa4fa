/-! # Ascending lists of strings

Strings are ordered by code point, which is also the order of their bytes. A list of strings that
ascends holds each of them once, so it is the same list whatever order they came in.

* `insertAscending s l`: `l` with `s` at its place.
-/

namespace StatusReport

/-- Each string is below all that follow it. -/
abbrev Ascending (l : List String) : Prop := l.Pairwise (· < ·)

theorem Ascending.nil : Ascending [] := List.Pairwise.nil

/-- Puts a string at its place, unless it is there already. -/
def insertAscending (s : String) : List String → List String
  | [] => [s]
  | t :: rest =>
    if s < t then s :: t :: rest
    else if s = t then t :: rest
    else t :: insertAscending s rest

@[simp] theorem mem_insertAscending {t s : String} {l : List String} :
    t ∈ insertAscending s l ↔ t = s ∨ t ∈ l := by
  induction l with
  | nil => simp [insertAscending]
  | cons q rest ih =>
    by_cases hlt : s < q
    · simp [insertAscending, hlt]
    · by_cases heq : s = q
      · subst heq
        simp [insertAscending]
      · simp [insertAscending, hlt, heq, ih]
        grind

theorem Ascending.insert {s : String} {l : List String} (h : Ascending l) :
    Ascending (insertAscending s l) := by
  induction l with
  | nil => simp [insertAscending]
  | cons q rest ih =>
    obtain ⟨hq, hrest⟩ := List.pairwise_cons.1 h
    by_cases hlt : s < q
    · simp only [insertAscending, hlt, if_true]
      refine List.pairwise_cons.2 ⟨fun t ht => ?_, h⟩
      cases List.mem_cons.1 ht with
      | inl ht => exact ht ▸ hlt
      | inr ht => exact String.lt_trans hlt (hq t ht)
    · by_cases heq : s = q
      · simpa [insertAscending, hlt, heq, String.lt_irrefl] using h
      · simp only [insertAscending, hlt, heq, if_false]
        refine List.pairwise_cons.2 ⟨fun t ht => ?_, ih hrest⟩
        cases mem_insertAscending.1 ht with
        | inl ht =>
          subst ht
          exact Std.lt_of_le_of_ne (String.not_lt.1 hlt) (Ne.symm heq)
        | inr ht => exact hq t ht

theorem insertAscending_of_above {s : String} {l : List String} (above : ∀ t ∈ l, t < s) :
    insertAscending s l = l ++ [s] := by
  induction l with
  | nil => rfl
  | cons q rest ih =>
    obtain ⟨first, others⟩ := List.forall_mem_cons.1 above
    have below : ¬ s < q := fun h => String.lt_irrefl s (String.lt_trans h first)
    have other : s ≠ q := fun h => String.lt_irrefl q (h ▸ first)
    rw [insertAscending, if_neg below, if_neg other, ih others, List.cons_append]

end StatusReport
