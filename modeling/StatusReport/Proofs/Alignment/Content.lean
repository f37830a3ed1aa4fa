import StatusReport.Proofs.Text.Lines
import StatusReport.Proofs.Text.Utf8

/-! # What alignment keeps

Alignment replaces the tabs of a line by blanks and drops the tabs at its end. Everything else is
kept: there are the same line feeds, and the same characters but for blanks and tabs. Text without
a tab is all last cells, so it stays as it is.

* `isVisible`: what is neither a blank nor a tab.
* `ShownCells`: the cells of a row that are shown.
* `filter_alignedText`: aligned text without its blanks.
* `tab_not_mem_alignedText`, `ended_alignedText`: no tab is left, and every line is ended.
* `alignedText_of_no_tab`: text without a tab.
-/

namespace StatusReport

open Text (Bytes Ended ofLines splitOn)
open Text.Utf8 (decodeLossy)

/-- What alignment keeps: neither a blank nor a tab. -/
def isVisible (c : Char) : Bool := c ≠ ' ' && c ≠ '\t'

/-! ## Rows -/

/-- The cells of a row through the last one that is not empty. -/
structure ShownCells (row cells : List Cell) : Prop where
  dropped : ∃ n, row = cells ++ List.replicate n []
  last : ∀ cell ∈ cells.getLast?, cell ≠ []

theorem shownCells_trimRow (row : List Cell) : ShownCells row (trimRow row) := by
  have cut : row = trimRow row ++ (row.reverse.takeWhile List.isEmpty).reverse := by
    rw [trimRow, ← List.reverse_append, List.takeWhile_append_dropWhile, List.reverse_reverse]
  have empty : ∀ cell ∈ (row.reverse.takeWhile List.isEmpty).reverse, cell = [] := by
    intro cell member
    have dropped := List.all_eq_true.1 List.all_takeWhile cell (List.mem_reverse.1 member)
    simpa using dropped
  constructor
  · exact ⟨_, cut.trans (congrArg _ (List.eq_replicate_of_mem empty))⟩
  · intro cell last
    have shown : (trimRow row).reverse.head? = some cell := by rwa [List.head?_reverse]
    rw [trimRow, List.reverse_reverse] at shown
    have filled := List.head?_dropWhile_not List.isEmpty row.reverse
    rw [shown] at filled
    simpa using filled

theorem flatten_trimRow (row : List Cell) : (trimRow row).flatten = row.flatten := by
  obtain ⟨n, cut⟩ := (shownCells_trimRow row).dropped
  calc (trimRow row).flatten
      = (trimRow row ++ List.replicate n []).flatten := by simp
    _ = row.flatten := by rw [← cut]

theorem padRow_cons_cons (padding : Nat) (widths : List Nat) (cell next : Cell)
    (rest : List Cell) :
    padRow padding widths (cell :: next :: rest) =
      padCell padding (widths.headD 0) cell ++ padRow padding widths.tail (next :: rest) := by
  cases widths <;> rfl

theorem filter_padRow {p : Char → Bool} (blank : p ' ' = false) (padding : Nat)
    (widths : List Nat) (row : List Cell) :
    (padRow padding widths row).filter p = row.flatten.filter p := by
  induction row generalizing widths with
  | nil => cases widths <;> rfl
  | cons cell rest ih =>
    cases rest with
    | nil => cases widths <;> simp [padRow]
    | cons next rest =>
      rw [padRow_cons_cons, List.filter_append, ih, List.flatten_cons, List.filter_append]
      simp [padCell, blank]

theorem padRow_singleton (padding : Nat) (widths : List Nat) (line : Cell) :
    padRow padding widths (trimRow [line]) = line := by
  cases line <;> cases widths <;> rfl

def alignLine (padding : Nat) (widths : List Nat) (line : List Char) : List Char :=
  padRow padding widths (trimRow (splitOn '\t' line))

theorem filter_alignLine {p : Char → Bool} (blank : p ' ' = false) (padding : Nat)
    (widths : List Nat) (line : List Char) :
    (alignLine padding widths line).filter p = (line.filter (· ≠ '\t')).filter p := by
  rw [alignLine, filter_padRow blank, flatten_trimRow, Text.flatten_splitOn]

theorem of_mem_alignLine {padding : Nat} {widths : List Nat} {line : List Char} {c : Char}
    (member : c ∈ alignLine padding widths line) (other : c ≠ ' ') : c ∈ line ∧ c ≠ '\t' := by
  have kept : c ∈ (alignLine padding widths line).filter (· == c) := by
    simpa using member
  rw [filter_alignLine (by simpa using other.symm)] at kept
  simpa using kept

theorem alignLine_of_no_tab {padding : Nat} {widths : List Nat} {line : List Char}
    (plain : '\t' ∉ line) : alignLine padding widths line = line := by
  rw [alignLine, Text.splitOn_of_not_mem plain, padRow_singleton]

/-! ## Texts -/

def alignedLines (padding : Nat) (text : List Char) : List (List Char) :=
  (Text.lines text).map (alignLine padding (columnWidths (cellRows text)))

theorem toList_alignedText (padding : Nat) (bytes : Bytes) :
    (alignedText padding bytes).toList = ofLines (alignedLines padding (decodeLossy bytes)) := by
  rw [alignedText, String.toList_ofList, alignRows, cellRows, List.map_map]
  rfl

theorem alignedText_nil (padding : Nat) : alignedText padding [] = "" := rfl

theorem tab_not_mem_alignedText (padding : Nat) (bytes : Bytes) :
    '\t' ∉ (alignedText padding bytes).toList := by
  rw [toList_alignedText, ofLines, List.mem_flatMap]
  rintro ⟨line, member, tab⟩
  obtain ⟨before, -, rfl⟩ := List.mem_map.1 member
  rw [List.mem_append] at tab
  obtain tab | tab := tab
  · exact (of_mem_alignLine tab (by decide)).2 rfl
  · simp at tab

variable {padding : Nat} {bytes : Bytes}

theorem ended_alignedText : Ended (alignedText padding bytes).toList := by
  rw [toList_alignedText]
  exact Text.ended_ofLines _

/-- Without blanks, aligned text is the text without blanks and tabs. -/
theorem filter_alignedText (ended : Ended (decodeLossy bytes)) :
    (alignedText padding bytes).toList.filter (· ≠ ' ') =
      (decodeLossy bytes).filter isVisible := by
  have lines : ∀ ls : List (List Char), ∀ widths,
      (ofLines (ls.map (alignLine padding widths))).filter (· ≠ ' ') =
        (ofLines ls).filter isVisible := by
    intro ls widths
    induction ls with
    | nil => rfl
    | cons line rest ih =>
      rw [List.map_cons, Text.ofLines_cons, Text.ofLines_cons, List.filter_append,
        List.filter_append, filter_alignLine rfl, List.filter_filter, List.filter_cons_of_pos rfl,
        List.filter_cons_of_pos rfl, ih]
      rfl
  rw [toList_alignedText, alignedLines, lines, Text.ofLines_lines ended]

theorem alignedText_of_no_tab (ended : Ended (decodeLossy bytes))
    (plain : '\t' ∉ decodeLossy bytes) :
    (alignedText padding bytes).toList = decodeLossy bytes := by
  have lines : alignedLines padding (decodeLossy bytes) = Text.lines (decodeLossy bytes) := by
    rw [alignedLines, List.map_congr_left (g := id), List.map_id]
    intro line member
    exact alignLine_of_no_tab fun tab => plain (Text.mem_of_mem_lines member tab)
  rw [toList_alignedText, lines, Text.ofLines_lines ended]

theorem alignedText_ne_empty (filled : bytes ≠ []) : alignedText padding bytes ≠ "" := by
  intro nothing
  have lines : alignedLines padding (decodeLossy bytes) ≠ [] := by
    rw [alignedLines, Ne, List.map_eq_nil_iff]
    exact Text.lines_ne_nil (Text.Utf8.decodeLossy_ne_nil filled)
  have none := congrArg String.toList nothing
  obtain ⟨line, rest, cut⟩ := List.exists_cons_of_ne_nil lines
  rw [toList_alignedText, cut, Text.ofLines_cons] at none
  simp at none

end StatusReport
