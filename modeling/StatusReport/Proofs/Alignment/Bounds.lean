import Mathlib.Algebra.Order.BigOperators.Group.List
import Mathlib.Algebra.Order.Group.Nat
import Mathlib.Data.Nat.PSub
import StatusReport.Proofs.Alignment.Columns

/-! # Alignment stays in bounds

The widths of columns are collected cell by cell: a cell that has a tab behind it enters the column
at its place, and a place behind all others is added at the end, whichever it is. Rows are printed
with these widths in a second pass, which looks up one for every cell before the last one printed
and takes the width of the cell away from it. Neither can fail. A cell before the last one printed
has a tab behind it, so it has entered its column in the first pass. The widths are no larger than
the number of bytes, so there is room for them in any number that can count the bytes.

* `enterRow`: the first pass, row by row.
* `printRow?`: the second pass, where a look-up or a subtraction may fail.
* `alignedText?`: both.
* `aligning_stays_in_bounds`: nothing fails.
-/

namespace StatusReport

open Text (Bytes charWidth widthOf)
open Text.Utf8 (decodeLossy)

/-! ## Collecting widths -/

/-- Enters a width into the column at an index. An index without a width yet is taken to be the
    next one. -/
def enterWidth (widths : List Nat) (i width : Nat) : List Nat :=
  match widths[i]? with
  | none => widths ++ [width]
  | some known => if known < width then widths.set i width else widths

def enterRow (widths : List Nat) (row : List Cell) : List Nat :=
  (row.take (row.length - 1)).zipIdx.foldl
    (fun widths (cell, i) => enterWidth widths i (widthOf cell)) widths

theorem maxima_nil (widths : List Nat) : maxima widths [] = widths := by
  cases widths <;> rfl

theorem enterWidth_cons_succ (known : Nat) (widths : List Nat) (i width : Nat) :
    enterWidth (known :: widths) (i + 1) width = known :: enterWidth widths i width := by
  simp only [enterWidth, List.getElem?_cons_succ]
  cases widths[i]? with
  | none => rfl
  | some old => by_cases wider : old < width <;> simp [wider]

theorem maxima_concat (widths before : List Nat) (width : Nat) :
    maxima widths (before ++ [width]) =
      enterWidth (maxima widths before) before.length width := by
  induction before generalizing widths with
  | nil =>
    cases widths with
    | nil => rfl
    | cons known widths =>
      rw [List.nil_append, maxima_nil, maxima, maxima_nil, List.length_nil]
      by_cases wider : known < width
      · simp [enterWidth, wider, Nat.max_eq_right (Nat.le_of_lt wider)]
      · simp [enterWidth, wider, Nat.max_eq_left (Nat.le_of_not_lt wider)]
  | cons first before ih =>
    cases widths with
    | nil =>
      have rest := ih []
      rw [maxima, maxima] at rest
      rw [maxima, maxima, List.cons_append, List.length_cons, enterWidth_cons_succ, ← rest]
    | cons known widths =>
      rw [List.cons_append, maxima, maxima, List.length_cons, enterWidth_cons_succ, ← ih]

theorem enterRow_eq (widths : List Nat) (row : List Cell) :
    enterRow widths row = maxima widths (paddedWidths row) := by
  rw [enterRow, paddedWidths, ← List.dropLast_eq_take]
  induction row.dropLast using List.reverseRecOn with
  | nil => rw [List.map_nil, maxima_nil]; rfl
  | append_singleton before cell ih =>
    rw [List.zipIdx_append, List.foldl_append, ih, List.map_append, List.map_singleton,
      maxima_concat, List.length_map]
    simp

theorem foldl_enterRow (rows : List (List Cell)) :
    rows.foldl enterRow [] = columnWidths rows := by
  rw [columnWidths]
  congr 1
  funext widths row
  exact enterRow_eq widths row

/-! ## Printing rows -/

/-- The last cell of a row that is not empty, or else the first. -/
def lastFilled (row : List Cell) : Nat :=
  match row.reverse.findIdx? (fun cell => !cell.isEmpty) with
  | some behind => row.length - 1 - behind
  | none => 0

/-- A cell with the blanks after it, if it is not the last. They need the width of the column, from
    which the width of the cell is taken away. -/
def printCell? (padding : Nat) (widths : List Nat) (last i : Nat) (cell : Cell) :
    Option (List Char) :=
  if i < last then do
    let width ← widths[i]?
    let short ← width.psub (widthOf cell)
    return cell ++ List.replicate (short + padding) ' '
  else
    return cell

def printRow? (padding : Nat) (widths : List Nat) (row : List Cell) : Option (List Char) := do
  let last := lastFilled row
  let printed ← (row.take (last + 1)).zipIdx.mapM fun (cell, i) =>
    printCell? padding widths last i cell
  return printed.flatten ++ ['\n']

/-- The text that bytes become, in two passes. -/
def alignedText? (padding : Nat) (bytes : Bytes) : Option String := do
  let rows := cellRows (decodeLossy bytes)
  let widths := rows.foldl enterRow []
  let printed ← rows.mapM (printRow? padding widths)
  return .ofList printed.flatten

theorem mapM_eq_some_map {α β : Type} {f : α → Option β} {g : α → β} {as : List α}
    (each : ∀ a ∈ as, f a = some (g a)) : as.mapM f = some (as.map g) := by
  induction as with
  | nil => rfl
  | cons a rest ih =>
    obtain ⟨first, others⟩ := List.forall_mem_cons.1 each
    rw [List.mapM_cons, first, ih others]
    rfl

theorem lastFilled_eq (row : List Cell) : lastFilled row = (trimRow row).length - 1 := by
  have shown : trimRow row =
      row.take (row.length - row.reverse.findIdx fun cell => !cell.isEmpty) := by
    rw [trimRow, List.dropWhile_eq_drop_findIdx_not, List.drop_reverse, List.reverse_reverse]
  rw [lastFilled, shown, List.length_take, List.findIdx?_eq_guard_findIdx_lt, List.length_reverse]
  by_cases filled : (row.reverse.findIdx fun cell => !cell.isEmpty) < row.length
  · rw [Option.guard_eq_some_iff.2 ⟨rfl, by simpa using filled⟩]
    dsimp only
    omega
  · rw [Option.guard_eq_none_iff.2 (by simpa using filled)]
    dsimp only
    omega

/-- What is printed of a row are its cells through the last one that is not empty, or else an empty
    one. -/
theorem padRow_take_lastFilled (padding : Nat) (widths : List Nat) (row : List Cell) :
    padRow padding widths (row.take (lastFilled row + 1)) =
      padRow padding widths (trimRow row) := by
  obtain ⟨n, cut⟩ := (shownCells_trimRow row).dropped
  rw [lastFilled_eq]
  cases shown : trimRow row with
  | nil =>
    rw [shown, List.nil_append] at cut
    rw [cut]
    cases n <;> cases widths <;> rfl
  | cons cell cells =>
    rw [shown] at cut
    rw [cut, List.length_cons, Nat.add_sub_cancel, ← List.length_cons (a := cell),
      List.take_left]

variable {padding : Nat} {widths : List Nat}

theorem printCell?_eq_some {last i : Nat} {cell : Cell}
    (known : i < last → ∃ width, widths[i]? = some width ∧ widthOf cell ≤ width) :
    printCell? padding widths last i cell =
      some (if i < last then padCell padding (widths.getD i 0) cell else cell) := by
  rw [printCell?]
  by_cases before : i < last
  · obtain ⟨width, found, fits⟩ := known before
    rw [if_pos before, if_pos before, List.getD_eq_getElem?_getD, found]
    simp [Nat.psub_eq_sub fits, padCell]
  · rw [if_neg before, if_neg before]
    rfl

theorem flatten_padded (padding : Nat) (widths : List Nat) (cells : List Cell) :
    (cells.mapIdx fun i cell =>
      if i < cells.length - 1 then padCell padding (widths.getD i 0) cell else cell).flatten =
      padRow padding widths cells := by
  induction cells generalizing widths with
  | nil => cases widths <;> rfl
  | cons cell rest ih =>
    cases rest with
    | nil => cases widths <;> simp [padRow]
    | cons next rest =>
      rw [padRow_cons_cons, ← ih, List.mapIdx_cons, List.flatten_cons]
      simp [List.head?_eq_getElem?]

theorem printRow?_eq_some {row : List Cell}
    (known : ∀ i cell, row[i]? = some cell → i < lastFilled row →
      ∃ width, widths[i]? = some width ∧ widthOf cell ≤ width) :
    printRow? padding widths row = some (padRow padding widths (trimRow row) ++ ['\n']) := by
  have last : lastFilled row = (row.take (lastFilled row + 1)).length - 1 := by
    have shorter := (shownCells_trimRow row).length_le
    rw [List.length_take, lastFilled_eq]
    omega
  -- No look-up fails, so the pass is a map over the cells with their places.
  have printed : (row.take (lastFilled row + 1)).zipIdx.mapM
      (fun (cell, i) => printCell? padding widths (lastFilled row) i cell) =
        some ((row.take (lastFilled row + 1)).mapIdx fun i cell =>
          if i < lastFilled row then padCell padding (widths.getD i 0) cell else cell) := by
    rw [List.mapIdx_eq_zipIdx_map]
    refine mapM_eq_some_map ?_
    rintro ⟨cell, i⟩ member
    refine printCell?_eq_some fun before => known i cell ?_ before
    rw [List.mk_mem_zipIdx_iff_getElem?, List.getElem?_take] at member
    exact (Option.ite_none_right_eq_some.1 member).2
  rw [printRow?, ← padRow_take_lastFilled, ← flatten_padded, ← last]
  simp only [printed]
  rfl

/-! ## Widths and bytes -/

theorem sublist_of_mem_cellRows {text : List Char} {row : List Cell} {cell : Cell}
    (member : row ∈ cellRows text) (here : cell ∈ row) : cell.Sublist text := by
  obtain ⟨line, found, rfl⟩ := List.mem_map.1 member
  calc
    cell.Sublist (Text.splitOn '\t' line).flatten := List.sublist_flatten_of_mem here
    List.Sublist _ line := by rw [Text.flatten_splitOn]; exact List.filter_sublist
    List.Sublist _ (Text.lines text).flatten := List.sublist_flatten_of_mem found
    List.Sublist _ text := by rw [Text.flatten_lines]; exact List.filter_sublist

theorem widthOf_le_length {bytes : Bytes} {row : List Cell} {cell : Cell}
    (member : row ∈ cellRows (decodeLossy bytes)) (here : cell ∈ row) :
    widthOf cell ≤ bytes.length :=
  calc widthOf cell
      ≤ (cell.map charWidth).sum := Text.scan_le_sum _ _
    _ ≤ ((decodeLossy bytes).map charWidth).sum :=
        ((sublist_of_mem_cellRows member here).map _).sum_le_sum fun _ _ => Nat.zero_le _
    _ ≤ bytes.length := Text.Utf8.sum_charWidth_decodeLossy_le bytes

/-- A cell before the last one that is not empty has entered its column, whose width is that of a
    cell. -/
theorem width_known {rows : List (List Cell)} {row : List Cell} (member : row ∈ rows)
    {i : Nat} {cell : Cell} (here : row[i]? = some cell) (before : i < lastFilled row) :
    ∃ width, (columnWidths rows)[i]? = some width ∧ widthOf cell ≤ width ∧
      ∃ widest ∈ tabbedCells rows i, widthOf widest = width := by
  have shorter := (shownCells_trimRow row).length_le
  have tabbed : row.dropLast[i]? = some cell := by
    rw [lastFilled_eq] at before
    rw [List.getElem?_dropLast, if_pos (by omega), here]
  have entered : widthOf cell ∈ (tabbedCells rows i).map widthOf :=
    List.mem_map_of_mem (List.mem_filterMap.2 ⟨row, member, tabbed⟩)
  obtain ⟨width, largest⟩ := Option.ne_none_iff_exists'.1
    (mt List.max?_eq_none_iff.1 (List.ne_nil_of_mem entered))
  obtain ⟨reached, bound⟩ := List.max?_eq_some_iff.1 largest
  exact ⟨width, by rw [getElem?_columnWidths, largest], bound _ entered, List.mem_map.1 reached⟩

/-- Alignment succeeds whatever the bytes: a cell before the last one printed finds the width of its
    column, which is no less than its own, and no more than there are bytes. -/
theorem aligning_stays_in_bounds (padding : Nat) (bytes : Bytes) :
    let rows := cellRows (decodeLossy bytes)
    let widths := rows.foldl enterRow []
    alignedText? padding bytes = some (alignedText padding bytes) ∧
      ∀ row ∈ rows, ∀ i cell, row[i]? = some cell → i < lastFilled row →
        ∃ width, widths[i]? = some width ∧ widthOf cell ≤ width ∧ width ≤ bytes.length := by
  intro rows widths
  have collected : widths = columnWidths rows := foldl_enterRow rows
  -- The width found is that of some cell of the text, which bounds it by the bytes.
  have known : ∀ row ∈ rows, ∀ i cell, row[i]? = some cell → i < lastFilled row →
      ∃ width, widths[i]? = some width ∧ widthOf cell ≤ width ∧ width ≤ bytes.length := by
    intro row member i cell here before
    obtain ⟨width, found, fits, widest, tabbed, rfl⟩ := width_known member here before
    obtain ⟨other, among, place⟩ := List.mem_filterMap.1 tabbed
    have inside : widest ∈ other := List.dropLast_subset _ (List.mem_of_getElem? place)
    exact ⟨_, by rw [collected, found], fits, widthOf_le_length among inside⟩
  have printed : rows.mapM (printRow? padding widths) =
      some (rows.map fun row => padRow padding widths (trimRow row) ++ ['\n']) := by
    refine mapM_eq_some_map fun row member => printRow?_eq_some fun i cell here before => ?_
    obtain ⟨width, found, fits, -⟩ := known row member i cell here before
    exact ⟨width, found, fits⟩
  refine ⟨?_, known⟩
  simp only [alignedText?, alignedText, alignRows]
  rw [printed, ← collected, List.flatMap_def, List.map_map]
  rfl

/-- Rows of three cells, of three of which two are empty, and of two with a byte that spells
    nothing. -/
theorem aligning_stays_in_bounds_ragged :
    let bytes := Text.Utf8.bytesOf "a\tb\tc\n\t作\t\n" ++ [0xFF, 0x09, 0x2D]
    let rows := cellRows (decodeLossy bytes)
    let widths := rows.foldl enterRow []
    alignedText? 2 bytes = some "a  b   c\n   作\n\uFFFD  -\n" ∧ widths = [1, 2] ∧
      (∃ width, widths[1]? = some width ∧ widthOf ['b'] ≤ width ∧ width ≤ bytes.length) ∧
      ∃ width, widths[0]? = some width ∧ widthOf ['\uFFFD'] ≤ width ∧ width ≤ bytes.length := by
  intro bytes rows widths
  obtain ⟨aligned, known⟩ := aligning_stays_in_bounds 2 bytes
  have text : alignedText 2 bytes = "a  b   c\n   作\n\uFFFD  -\n" := by decide +kernel
  refine ⟨aligned.trans (congrArg some text), by decide +kernel, ?_, ?_⟩
  · exact known [['a'], ['b'], ['c']] (by decide +kernel) 1 _ rfl (by decide)
  · exact known [['\uFFFD'], ['-']] (by decide +kernel) 0 _ rfl (by decide)

end StatusReport
