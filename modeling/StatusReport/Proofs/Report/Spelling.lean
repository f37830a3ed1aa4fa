import StatusReport.Proofs.Script
import StatusReport.Report.Detail
import StatusReport.Report.Table

/-! # Reports letter by letter

What a table and a listing write, said without the functions that write it: every separator, blank
and dash stands in the definition of the text.

* `gridText`, `headerCells`: the text of rows of cells, and the cells of a header.
* `listingText`: the text of the lines of a listing.
-/

namespace StatusReport

/-- The text of rows: tabs between the cells of a row, and a line feed after it. -/
def gridText (rows : List (List String)) : String :=
  unlines (rows.map fun cells => "\t".intercalate cells)

/-- The labels of groups, if a column has one, the titles, and under each title as many dashes as it
    is wide. -/
def headerCells (columns : List Column) : List (List String) :=
  let titles := columns.map (·.leaf.title)
  let groups := if columns.any (·.group.isSome) then [groupCells none true columns] else []
  groups ++
    [titles, titles.map fun title => String.ofList (List.replicate (Text.visualWidth title) '-')]

theorem headerLines_eq (columns : List Column) :
    headerLines columns = (headerCells columns).map fun cells => "\t".intercalate cells := by
  rw [headerLines, headerCells]
  cases columns.any (·.group.isSome) <;> rfl

theorem unlines_header_append (columns : List Column) (rows : List (List String)) :
    unlines (headerLines columns ++ rows.map cellLine) = gridText (headerCells columns ++ rows) := by
  rw [gridText, List.map_append, headerLines_eq]
  rfl

namespace DetailView

/-- How many boxed groups a line is indented for. -/
def Line.depth : Line → Nat
  | .header depth _ => depth
  | .entry depth _ _ => depth

/-- A line without the blanks in front of it. -/
def Line.words : Line → String
  | .header _ name => name ++ ":"
  | .entry _ title text => title ++ ":\t" ++ text

/-- A line behind two blanks for every boxed group around it. -/
def Line.spelled (line : Line) : String :=
  String.ofList (List.replicate (2 * line.depth) ' ') ++ line.words

theorem Line.text_eq (line : Line) : line.text = line.spelled := by
  cases line <;> simp only [text, indent, spelled, depth, words, String.append_assoc]

/-- The text of a listing: each line and a line feed. -/
def listingText (lines : List Line) : String := unlines (lines.map Line.spelled)

theorem unlines_map_text (lines : List Line) : unlines (lines.map Line.text) = listingText lines :=
  congrArg unlines (List.map_congr_left fun line _ => line.text_eq)

end DetailView

end StatusReport
