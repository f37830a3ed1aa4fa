import StatusReport.Proofs.Transcript
import StatusReport.Text.Lines

/-! # Laws of lines and cells

Cutting a text loses nothing but the separators: the pieces hold none, and put together again with
separators between them, or for lines a line feed after each, they are the text. So pieces without
a separator are what their text is cut into.

* `splitOn_eq`: cells are cut as the library cuts lists.
* `ofLines`, `ofLines_lines`, `lines_ofLines`: lines and the text they make.
* `flatten_splitOn`, `map_filter_lines`: what is left when characters are deleted.
-/

namespace StatusReport.Text

/-! ## Cells -/

theorem splitOn_eq (separator : Char) (cs : List Char) :
    splitOn separator cs = cs.splitOn separator := by
  induction cs with
  | nil => rfl
  | cons c cs ih =>
    have pieces : splitOn separator cs = cs.splitOnP (· == separator) := ih
    have first : ∀ l : List (List Char), l ≠ [] → consFirst c l = l.modifyHead (List.cons c) := by
      intro l filled
      cases l with
      | nil => exact absurd rfl filled
      | cons piece rest => rfl
    rw [splitOn_cons, List.splitOn, List.splitOnP_cons_eq_if_modifyHead, ← pieces,
      first _ (splitOn_ne_nil separator cs)]
    simp only [beq_iff_eq]

theorem splitOn_of_not_mem {separator : Char} {cs : List Char} (h : separator ∉ cs) :
    splitOn separator cs = [cs] := by
  rw [splitOn_eq]
  refine List.splitOnP_eq_singleton fun c hc => ?_
  simp only [beq_eq_false_iff_ne]
  rintro rfl
  exact h hc

theorem flatten_consFirst (c : Char) (pieces : List (List Char)) :
    (consFirst c pieces).flatten = c :: pieces.flatten := by
  cases pieces <;> rfl

theorem flatten_splitOn (separator : Char) (cs : List Char) :
    (splitOn separator cs).flatten = cs.filter (· ≠ separator) := by
  induction cs with
  | nil => rfl
  | cons c cs ih =>
    rw [splitOn_cons]
    by_cases h : c = separator
    · simp [h, ih]
    · simp [h, ih, flatten_consFirst]

/-- The separators in joined pieces are those between the pieces and those inside them. -/
theorem count_intercalate (separator c : Char) (pieces : List (List Char)) :
    ([separator].intercalate pieces).count c =
      (if c = separator then pieces.length - 1 else 0) + pieces.flatten.count c := by
  induction pieces with
  | nil => simp
  | cons piece rest ih =>
    cases rest with
    | nil => simp
    | cons next rest =>
      rw [List.intercalate_cons_cons, List.count_append, List.count_append, ih, List.count_singleton,
        List.flatten_cons, List.count_append]
      by_cases h : c = separator
      · subst h
        simp
        omega
      · simp [h, Ne.symm h]

/-! ## Lines -/

def ofLines (ls : List (List Char)) : List Char := ls.flatMap (· ++ ['\n'])

@[simp] theorem ofLines_nil : ofLines [] = [] := rfl

@[simp] theorem ofLines_cons (line : List Char) (rest : List (List Char)) :
    ofLines (line :: rest) = line ++ '\n' :: ofLines rest := by
  simp [ofLines]

theorem toList_unlines (ls : List String) :
    (unlines ls).toList = ofLines (ls.map String.toList) := by
  induction ls with
  | nil => rfl
  | cons line rest ih => simp [ih]

theorem ended_ofLines (ls : List (List Char)) : Ended (ofLines ls) := by
  induction ls with
  | nil => simp [Ended]
  | cons line rest ih =>
    rw [ofLines_cons, ← List.singleton_append, ← List.append_assoc]
    exact Ended.append (by simp [Ended]) ih

theorem lines_ofLines {ls : List (List Char)} (h : ∀ line ∈ ls, '\n' ∉ line) :
    lines (ofLines ls) = ls := by
  induction ls with
  | nil => rfl
  | cons line rest ih =>
    obtain ⟨first, others⟩ := List.forall_mem_cons.1 h
    rw [ofLines_cons, lines_append_newline, splitOn_of_not_mem first, ih others]
    rfl

theorem ofLines_consFirst {c : Char} {ls : List (List Char)} (filled : ls ≠ []) :
    ofLines (consFirst c ls) = c :: ofLines ls := by
  cases ls with
  | nil => exact absurd rfl filled
  | cons line rest => simp [consFirst]

theorem lines_ne_nil {cs : List Char} (filled : cs ≠ []) : lines cs ≠ [] := by
  cases cs with
  | nil => exact absurd rfl filled
  | cons c cs =>
    rw [lines_cons]
    split
    · exact List.cons_ne_nil _ _
    · exact consFirst_ne_nil c _

theorem ofLines_lines {cs : List Char} (ended : Ended cs) : ofLines (lines cs) = cs := by
  induction cs with
  | nil => rfl
  | cons c cs ih =>
    rw [lines_cons]
    split
    next feed => rw [ofLines_cons, ih ended.of_cons, feed, List.nil_append]
    next other =>
      -- More text follows the character, for it ends no line.
      have filled : cs ≠ [] := by
        rintro rfl
        exact other (ended c (by simp))
      rw [ofLines_consFirst (lines_ne_nil filled), ih ended.of_cons]

theorem flatten_lines (cs : List Char) : (lines cs).flatten = cs.filter (· ≠ '\n') := by
  induction cs with
  | nil => rfl
  | cons c cs ih =>
    rw [lines_cons]
    by_cases h : c = '\n'
    · simp [h, ih]
    · simp [h, ih, flatten_consFirst]

theorem mem_of_mem_lines {cs line : List Char} (h : line ∈ lines cs) {c : Char} (hc : c ∈ line) :
    c ∈ cs := by
  have left := List.mem_flatten_of_mem h hc
  rw [flatten_lines] at left
  exact (List.mem_filter.1 left).1

theorem not_mem_of_mem_lines {cs line : List Char} (h : line ∈ lines cs) : '\n' ∉ line := by
  intro member
  have left := List.mem_flatten_of_mem h member
  rw [flatten_lines, List.mem_filter] at left
  simp at left

theorem count_ofLines (ls : List (List Char)) :
    (ofLines ls).count '\n' = ls.length + ls.flatten.count '\n' := by
  induction ls with
  | nil => rfl
  | cons line rest ih =>
    rw [ofLines_cons, List.count_append, List.count_cons_self, ih, List.length_cons,
      List.flatten_cons, List.count_append]
    omega

theorem length_lines {cs : List Char} (ended : Ended cs) :
    (lines cs).length = cs.count '\n' := by
  have inside : (lines cs).flatten.count '\n' = 0 := by
    rw [flatten_lines, List.count_eq_zero]
    simp
  have feeds := count_ofLines (lines cs)
  rw [ofLines_lines ended, inside] at feeds
  exact feeds.symm

/-- Deleting characters, but no line feed, leaves the lines apart. -/
theorem map_filter_lines {p : Char → Bool} (feed : p '\n' = true) {cs : List Char}
    (ended : Ended cs) : (lines cs).map (List.filter p) = lines (cs.filter p) := by
  have deleted : ∀ ls : List (List Char),
      (ofLines ls).filter p = ofLines (ls.map (List.filter p)) := by
    intro ls
    induction ls with
    | nil => rfl
    | cons line rest ih => simp [feed, ih]
  have whole := deleted (lines cs)
  rw [ofLines_lines ended] at whole
  rw [whole, lines_ofLines]
  intro line member
  obtain ⟨before, found, rfl⟩ := List.mem_map.1 member
  exact fun inside => not_mem_of_mem_lines found (List.mem_filter.1 inside).1

end StatusReport.Text
