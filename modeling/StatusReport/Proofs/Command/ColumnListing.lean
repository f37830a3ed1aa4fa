import StatusReport.Command.Listing
import StatusReport.Proofs.Report.Script

/-! # What the listing of columns says

The listing is a table of its own, under options of its own, so it depends on nothing but the
columns. It has a line for each of them, in order, and no formatter that could refuse one.

* `Listing.entry`, `Listing.cells`: what the listing says of a column, and of all of them.
* `Listing.row_toRecord`: the row of a column is its entry.
* `Listing.script_toRecord`: the listing is its header and the entries.
-/

namespace StatusReport.Listing

def orDash (text : String) : String := if text = "" then "-" else text

/-- What the listing says of a column: its address, its selector, its title, its formatter, the
    boxed group it belongs to, and its default text. -/
def entry (column : Column) : List String :=
  [column.leaf.address, column.leaf.selectorPath, column.leaf.title,
    orDash (column.leaf.formatter.getD ""), orDash ((column.group.map (·.name)).getD ""),
    orDash column.leaf.defaultText]

def cells (columns : List Column) : List (List String) :=
  ["PATH", "SOURCE", "TITLE", "FORMAT", "GROUP", "DEFAULT"] ::
    ["----", "------", "-----", "------", "-----", "-------"] :: columns.map entry

/-! ## Rows of the listing -/

/-- A column for what records have under a key, and a text for those that have none. -/
def plainColumn (id : Nat) (key title absent : String) : Column :=
  ⟨⟨id, [], key, [key], title, absent, none⟩, none⟩

theorem columns_view : view.columns =
    [plainColumn 1 "path" "PATH" "", plainColumn 2 "source" "SOURCE" "",
      plainColumn 3 "title" "TITLE" "", plainColumn 4 "format" "FORMAT" absentText,
      plainColumn 5 "group" "GROUP" absentText, plainColumn 6 "default" "DEFAULT" absentText] := rfl

theorem leafText_plainColumn (id : Nat) (key title absent : String) (formatters : Registry)
    (r : Record) :
    leafText (plainColumn id key title absent).leaf formatters r =
      .ok (if ((r.field key).concrete?.map Value.text).getD "" = "" then absent
        else ((r.field key).concrete?.map Value.text).getD "") := by
  have selector : (plainColumn id key title absent).leaf.selector = [key] := rfl
  rw [leafText, selector, Record.extract_singleton]
  cases (r.field key).concrete? <;> rfl

theorem text_toValue (text : String) : ((toValue text).concrete?.map Value.text).getD "" = text := rfl

theorem text_toValue_optional (text : Option String) :
    ((toValue text).concrete?.map Value.text).getD "" = text.getD "" := by
  cases text <;> rfl

theorem ite_empty (text : String) : (if text = "" then "" else text) = text := by
  split
  · exact Eq.symm ‹_›
  · rfl

theorem row_toRecord (column : Column) :
    TableView.row view.columns view.formatters column.toRecord = .ok (entry column) := by
  have path : column.toRecord.field "path" = toValue column.leaf.address := rfl
  have source : column.toRecord.field "source" = toValue column.leaf.selectorPath := rfl
  have title : column.toRecord.field "title" = toValue column.leaf.title := rfl
  have format : column.toRecord.field "format" = toValue column.leaf.formatter := rfl
  have group : column.toRecord.field "group" = toValue (column.group.map (·.name)) := rfl
  have default : column.toRecord.field "default" = toValue column.leaf.defaultText := rfl
  simp only [columns_view, TableView.row, leafText_plainColumn, path, source, title, format, group,
    default, text_toValue, text_toValue_optional]
  -- The first three columns have no text of their own for what is empty.
  rw [ite_empty, ite_empty, ite_empty]
  rfl

theorem headerCells_view :
    headerCells view.columns = [["PATH", "SOURCE", "TITLE", "FORMAT", "GROUP", "DEFAULT"],
      ["----", "------", "-----", "------", "-----", "-------"]] := by
  decide +kernel

theorem script_toRecord (columns : List Column) :
    view.script (columns.map Column.toRecord) =
      ⟨(cells columns).map fun cells => "\t".intercalate cells, .ok ()⟩ := by
  have rows : (columns.map Column.toRecord).map (TableView.row view.columns view.formatters) =
      (columns.map entry).map .ok := by
    rw [List.map_map, List.map_map]
    exact List.map_congr_left fun column _ => row_toRecord column
  have filled : view.columns ≠ [] := by
    rw [columns_view]
    exact List.cons_ne_nil _ _
  rw [TableView.script_of_rows filled rows, headerLines_eq, headerCells_view]
  rfl

end StatusReport.Listing
