import Mathlib.Data.List.Nodup
import StatusReport.Proofs.Report.Agreement
import StatusReport.Proofs.Report.ShownColumns
import StatusReport.Proofs.Report.TableRun
import StatusReport.Proofs.Text.Lines

/-! # Tables as grids

A table writes rows of cells, as many in each as it has columns, and separates the cells by tabs and
the rows by line feeds. Texts go into cells as they are. So a reader who cuts the table at line
feeds and tabs finds as many rows and cells as were written exactly if no text has a tab or a line
feed of its own, and then finds the texts.

* `Text.Plain`: a text without separators.
* `IsGrid`: what a reader takes for so many rows of so many cells.
* `isGrid_iff_plain`, `cellRows_of_plain`: what is read of rows that were written.
* `groupsById_columns`: the groups of columns are known by their numbers.
* `read_as_written_iff_plain`: what is written by a table, and what is read of it.
-/

namespace StatusReport

/-- No tab and no line feed is in a text. -/
def Text.Plain (s : String) : Prop := '\t' ∉ s.toList ∧ '\n' ∉ s.toList

instance (s : String) : Decidable (Text.Plain s) :=
  inferInstanceAs (Decidable (_ ∧ _))

/-- A text is read as so many rows of so many cells each. -/
def IsGrid (height width : Nat) (text : List Char) : Prop :=
  (cellRows text).length = height ∧ ∀ row ∈ cellRows text, row.length = width

instance (height width : Nat) (text : List Char) : Decidable (IsGrid height width text) :=
  inferInstanceAs (Decidable (_ ∧ _))

open Text (Plain lines ofLines splitOn)

/-! ## Rows that are read back -/

def rowText (cells : List String) : List Char := ['\t'].intercalate (cells.map String.toList)

theorem toList_gridText (rows : List (List String)) :
    (gridText rows).toList = ofLines (rows.map rowText) := by
  rw [gridText, Text.toList_unlines, List.map_map]
  exact congrArg ofLines (List.map_congr_left fun _ _ => String.toList_intercalate)

theorem count_tab_rowText (cells : List String) :
    (rowText cells).count '\t' =
      cells.length - 1 + (cells.map String.toList).flatten.count '\t' := by
  rw [rowText, Text.count_intercalate, if_pos rfl, List.length_map]

theorem feed_mem_rowText {cells : List String} :
    '\n' ∈ rowText cells ↔ ∃ cell ∈ cells, '\n' ∈ cell.toList := by
  rw [rowText, ← List.count_pos_iff, Text.count_intercalate, if_neg (by decide), Nat.zero_add,
    List.count_pos_iff]
  simp

section Reading

variable {rows : List (List String)} {width : Nat}

theorem lines_gridText (unbroken : ∀ cells ∈ rows, ∀ cell ∈ cells, '\n' ∉ cell.toList) :
    lines (gridText rows).toList = rows.map rowText := by
  rw [toList_gridText, Text.lines_ofLines]
  intro line member feed
  obtain ⟨cells, written, rfl⟩ := List.mem_map.1 member
  obtain ⟨cell, inside, broken⟩ := feed_mem_rowText.1 feed
  exact unbroken cells written cell inside broken

/-- Plain cells are read as they were written. -/
theorem cellRows_of_plain (wide : 0 < width) (shape : ∀ cells ∈ rows, cells.length = width)
    (plain : ∀ cells ∈ rows, ∀ cell ∈ cells, Plain cell) :
    cellRows (gridText rows).toList = rows.map (·.map String.toList) := by
  rw [cellRows, lines_gridText fun cells written cell inside => (plain cells written cell inside).2,
    List.map_map]
  refine List.map_congr_left fun cells written => ?_
  rw [Function.comp_apply, rowText, Text.splitOn_eq, List.splitOn_intercalate]
  · intro piece member tab
    obtain ⟨cell, inside, rfl⟩ := List.mem_map.1 member
    exact (plain cells written cell inside).1 tab
  · rw [← List.length_pos_iff, List.length_map, shape cells written]
    exact wide

/-- Rows of a width are read as a grid exactly if all of their cells are plain. -/
theorem isGrid_iff_plain (wide : 0 < width) (shape : ∀ cells ∈ rows, cells.length = width) :
    IsGrid rows.length width (gridText rows).toList ↔
      ∀ cells ∈ rows, ∀ cell ∈ cells, Plain cell := by
  constructor
  · rintro ⟨height, widths⟩
    -- The line feeds are those after the rows, so none is in a cell.
    have unbroken : ∀ cells ∈ rows, ∀ cell ∈ cells, '\n' ∉ cell.toList := by
      rw [cellRows, List.length_map, toList_gridText, Text.length_lines (Text.ended_ofLines _),
        Text.count_ofLines, List.length_map, Nat.add_eq_left, List.count_eq_zero] at height
      intro cells written cell inside feed
      have broken := feed_mem_rowText.2 ⟨cell, inside, feed⟩
      exact height (List.mem_flatten_of_mem (List.mem_map_of_mem written) broken)
    -- So the rows are read one by one, and the tabs of each are those between its cells.
    intro cells written cell inside
    refine ⟨fun tab => ?_, unbroken cells written cell inside⟩
    have read : splitOn '\t' (rowText cells) ∈ cellRows (gridText rows).toList := by
      rw [cellRows, lines_gridText unbroken]
      exact List.mem_map_of_mem (List.mem_map_of_mem written)
    have length := widths _ read
    rw [Text.length_splitOn, count_tab_rowText, shape cells written] at length
    have tabs : (cells.map String.toList).flatten.count '\t' = 0 := by omega
    exact List.count_eq_zero.1 tabs (List.mem_flatten_of_mem (List.mem_map_of_mem inside) tab)
  · intro plain
    have read := cellRows_of_plain wide shape plain
    refine ⟨by rw [read, List.length_map], fun row member => ?_⟩
    rw [read] at member
    obtain ⟨cells, written, rfl⟩ := List.mem_map.1 member
    rw [List.length_map, shape cells written]

end Reading

/-! ## The header -/

theorem length_groupCells (previous : Option Nat) (first : Bool) (columns : List Column) :
    (groupCells previous first columns).length = columns.length := by
  induction columns generalizing previous first with
  | nil => rfl
  | cons column rest ih =>
    rw [groupCells]
    cases column.group with
    | none => exact congrArg (· + 1) (ih none first)
    | some g =>
      simp only
      split <;> exact congrArg (· + 1) (ih _ _)

theorem length_of_mem_headerCells {columns : List Column} {cells : List String}
    (member : cells ∈ headerCells columns) : cells.length = columns.length := by
  rw [headerCells, List.mem_append] at member
  obtain labels | titles := member
  · split at labels
    · rw [List.mem_singleton.1 labels, length_groupCells]
    · cases labels
  · obtain rfl | titles := List.mem_cons.1 titles
    · rw [List.length_map]
    · rw [List.mem_singleton.1 titles, List.length_map, List.length_map]

theorem plain_dashes (width : Nat) : Plain (String.ofList (List.replicate width '-')) := by
  have dashes : ∀ c ∈ (String.ofList (List.replicate width '-')).toList, c = '-' := by
    intro c member
    rw [String.toList_ofList] at member
    exact List.eq_of_mem_replicate member
  exact ⟨fun tab => absurd (dashes _ tab) (by decide), fun feed => absurd (dashes _ feed) (by decide)⟩

theorem plain_groupLabel {first : Bool} {g : ColumnGroup} :
    Plain (groupLabel first g) ↔ Plain g.name := by
  cases first with
  | true => rfl
  | false => simp [groupLabel, groupMarker, Plain]

structure Column.Plain (column : Column) : Prop where
  title : Text.Plain column.leaf.title
  group : ∀ g ∈ column.group, Text.Plain g.name

instance (column : Column) : Decidable column.Plain :=
  decidable_of_iff (Text.Plain column.leaf.title ∧ ∀ g ∈ column.group, Text.Plain g.name)
    ⟨fun h => ⟨h.1, h.2⟩, fun h => ⟨h.title, h.group⟩⟩

theorem plain_groupCells {columns : List Column} (plain : ∀ column ∈ columns, column.Plain)
    (previous : Option Nat) (first : Bool) :
    ∀ cell ∈ groupCells previous first columns, Plain cell := by
  induction columns generalizing previous first with
  | nil => exact nofun
  | cons column rest ih =>
    obtain ⟨here, others⟩ := List.forall_mem_cons.1 plain
    rw [groupCells]
    cases grouped : column.group with
    | none => exact List.forall_mem_cons.2 ⟨by decide, ih others _ _⟩
    | some g =>
      simp only
      split
      · exact List.forall_mem_cons.2 ⟨by decide, ih others _ _⟩
      · exact List.forall_mem_cons.2 ⟨plain_groupLabel.2 (here.group g grouped), ih others _ _⟩

/-- Groups of columns are known by their numbers. -/
def GroupsById (columns : List Column) : Prop :=
  ∀ column ∈ columns, ∀ column' ∈ columns, ∀ g ∈ column.group, ∀ g' ∈ column'.group,
    g.id = g'.id → g = g'

theorem GroupsById.tail {column : Column} {rest : List Column} (byId : GroupsById (column :: rest)) :
    GroupsById rest := fun c hc c' hc' =>
  byId c (List.mem_cons_of_mem _ hc) c' (List.mem_cons_of_mem _ hc')

theorem groupsById_columns {descriptor : Descriptor} {formatters : Registry} {schema : Schema}
    (built : Schema.build descriptor formatters = .ok schema) (visibility : Visibility) :
    GroupsById (columns schema visibility) := by
  intro column h column' h' g grouped g' grouped' same
  obtain ⟨box, member, boxed⟩ := box_of_group h grouped
  obtain ⟨box', member', boxed'⟩ := box_of_group h' grouped'
  have one : box = box' := by
    apply List.inj_on_of_nodup_map (Visibility.numbers_nodup built) member member'
    rw [Node.id_of_box? boxed, Node.id_of_box? boxed', same]
  rw [one, boxed'] at boxed
  exact (Option.some_inj.1 boxed).symm

/-- A column that is not labelled has the group of the column before, whose name is plain then. -/
theorem plain_names_of_groupCells {columns : List Column} {previous : Option Nat} {first : Bool}
    (byId : GroupsById columns)
    (before : ∀ column ∈ columns, ∀ g ∈ column.group, previous = some g.id → Plain g.name)
    (plain : ∀ cell ∈ groupCells previous first columns, Plain cell) :
    ∀ column ∈ columns, ∀ g ∈ column.group, Plain g.name := by
  induction columns generalizing previous first with
  | nil => exact nofun
  | cons column rest ih =>
    obtain ⟨here, others⟩ := List.forall_mem_cons.1 before
    rw [groupCells] at plain
    cases grouped : column.group with
    | none =>
      simp only [grouped] at plain
      obtain ⟨-, later⟩ := List.forall_mem_cons.1 plain
      refine List.forall_mem_cons.2 ⟨by simp [grouped], ih byId.tail ?_ later⟩
      exact fun _ _ _ _ other => nomatch other
    | some g =>
      have own : Plain g.name → ∀ g' ∈ column.group, Plain g'.name := by
        rintro named _ member
        rwa [← Option.some_inj.1 (grouped.symm.trans member)]
      simp only [grouped] at plain
      -- A column of the group before it has no label of its own, so `before` has to say of it.
      split at plain
      next same =>
        obtain ⟨-, later⟩ := List.forall_mem_cons.1 plain
        exact List.forall_mem_cons.2 ⟨own (here g grouped same), ih byId.tail others later⟩
      next =>
        obtain ⟨label, later⟩ := List.forall_mem_cons.1 plain
        have named := plain_groupLabel.1 label
        refine List.forall_mem_cons.2 ⟨own named, ih byId.tail ?_ later⟩
        intro c hc g' hg' same
        have equal := byId column List.mem_cons_self c (List.mem_cons_of_mem _ hc) g grouped g' hg'
          (Option.some_inj.1 same)
        rwa [← equal]

theorem plain_headerCells_iff {columns : List Column} (byId : GroupsById columns) :
    (∀ cells ∈ headerCells columns, ∀ cell ∈ cells, Plain cell) ↔
      ∀ column ∈ columns, column.Plain := by
  rw [headerCells, List.forall_mem_append, List.forall_mem_cons, List.forall_mem_singleton]
  constructor
  · rintro ⟨labels, titles, -⟩ column member
    refine ⟨titles _ (List.mem_map_of_mem member), fun g grouped => ?_⟩
    have labelled : columns.any (·.group.isSome) = true := by
      rw [List.any_eq_true]
      exact ⟨column, member, Option.isSome_of_mem grouped⟩
    rw [if_pos labelled, List.forall_mem_singleton] at labels
    have start : ∀ column ∈ columns, ∀ g ∈ column.group, none = some g.id → Plain g.name :=
      fun _ _ _ _ other => absurd other.symm (Option.some_ne_none _)
    exact plain_names_of_groupCells byId start labels column member g grouped
  · intro plain
    refine ⟨?_, ?_, ?_⟩
    · split
      · exact List.forall_mem_singleton.2 (plain_groupCells plain none true)
      · exact List.forall_mem_nil _
    · intro title member
      obtain ⟨column, inside, rfl⟩ := List.mem_map.1 member
      exact (plain column inside).title
    · intro cell member
      obtain ⟨title, -, rfl⟩ := List.mem_map.1 member
      exact plain_dashes _

/-! ## Tables -/

namespace TableView

variable {view : TableView} {records : List Record}

theorem rows_of_ended (known : ∀ column ∈ view.columns, Known view.formatters column.leaf)
    (filled : view.columns ≠ []) (ended : (view.script records).ending = .ok ()) :
    ∃ texts : List (List String),
      records.map (row view.columns view.formatters) = texts.map .ok := by
  obtain shown | ⟨before, r, later, rfl, shown, ⟨failure⟩⟩ :=
    shows_or_first view.columns view.formatters records
  · exact rows_of_shown known shown
  · obtain ⟨texts, made⟩ := rows_of_shown known shown
    rw [script_of_failure filled made (row_of_failure known failure)] at ended
    cases ended

theorem length_of_rows {texts : List (List String)}
    (made : records.map (row view.columns view.formatters) = texts.map .ok) :
    texts.length = records.length ∧ ∀ cells ∈ texts, cells.length = view.columns.length := by
  constructor
  · have lengths := congrArg List.length made
    rw [List.length_map, List.length_map] at lengths
    exact lengths.symm
  · intro cells member
    have made : Except.ok cells ∈ records.map (row view.columns view.formatters) := by
      rw [made]
      exact List.mem_map_of_mem member
    obtain ⟨r, -, row⟩ := List.mem_map.1 made
    exact length_row row

theorem received_of_rows (fresh : view.error = none) (filled : view.columns ≠ [])
    {texts : List (List String)}
    (made : records.map (row view.columns view.formatters) = texts.map .ok) :
    (view.render ({} : Transcript) records).2.received =
      gridText (headerCells view.columns ++ texts) := by
  have written := congrArg Script.output (script_of_rows filled made)
  exact (Report.received_render view fresh records).trans
    (written.trans (unlines_header_append view.columns texts))

end TableView

/-- A table with columns and without an error writes the header and a row for every record, as many
    cells each as it has columns: two rows more than there are records, or three if a column has a
    group. The cells of the rows are the texts of the records, and all texts are written as they
    are. So the table is read as these rows of these cells exactly if every title, every name of a
    group that has a column and every text of a record is plain. -/
theorem read_as_written_iff_plain (descriptor : Descriptor) (options : ViewOptions)
    (records : List Record) :
    let view := TableView.ofDescriptor descriptor options
    let run := view.render ({} : Transcript) records
    view.columns ≠ [] → run.1.error = none →
      ∃ texts : List (List String),
        records.map (TableView.row view.columns options.formatters) = texts.map .ok ∧
        let rows := headerCells view.columns ++ texts
        run.2.received = gridText rows ∧
        rows.length = records.length + (if view.columns.any (·.group.isSome) then 3 else 2) ∧
        (∀ cells ∈ rows, cells.length = view.columns.length) ∧
        (IsGrid rows.length view.columns.length run.2.received.toList ↔
          (∀ column ∈ view.columns, column.Plain) ∧ ∀ cells ∈ texts, ∀ text ∈ cells, Plain text) ∧
        (IsGrid rows.length view.columns.length run.2.received.toList →
          cellRows run.2.received.toList = rows.map (·.map String.toList)) := by
  intro view run filled unfailed
  cases built : Schema.build descriptor options.formatters with
  | error e => exact absurd (by simp only [view, TableView.ofDescriptor_error built]) filled
  | ok schema =>
    have made := TableView.ofDescriptor_ok built
    have fresh : view.error = none := by simp only [view, made]
    have named : view.formatters = options.formatters := by simp only [view, made]
    have byId : GroupsById view.columns := by
      simp only [view, made]
      exact groupsById_columns built _
    have ended : (view.script records).ending = .ok () :=
      (Report.result_render_keeps view Transcript.keeps fresh "" records).symm.trans
        (Report.result_of_fresh run.1 unfailed)
    obtain ⟨texts, rowsMade⟩ :=
      TableView.rows_of_ended (TableView.known_ofDescriptor built) filled ended
    -- From here on the table is its rows of cells, and nothing else about the view matters.
    obtain ⟨height, widths⟩ := TableView.length_of_rows rowsMade
    have shape : ∀ cells ∈ headerCells view.columns ++ texts,
        cells.length = view.columns.length :=
      List.forall_mem_append.2 ⟨fun _ => length_of_mem_headerCells, widths⟩
    have wide : 0 < view.columns.length := List.length_pos_iff.2 filled
    have received : run.2.received = gridText (headerCells view.columns ++ texts) :=
      TableView.received_of_rows fresh filled rowsMade
    have plain := isGrid_iff_plain wide shape
    refine ⟨texts, named ▸ rowsMade, received, ?_, shape, ?_, fun grid => ?_⟩
    · rw [List.length_append, height, headerCells]
      split <;> simp [Nat.add_comm]
    · rw [received, plain, List.forall_mem_append, plain_headerCells_iff byId]
    · rw [received] at grid ⊢
      exact cellRows_of_plain wide shape (plain.1 grid)

/-- A job whose name is plain and a job without a name are read back, under the group of the
    memory. -/
theorem read_as_written_iff_plain_jobs :
    let view := TableView.ofDescriptor Sample.jobs Sample.options
    let run := view.render ({} : Transcript) [Sample.job "a b" (.int 1536), Sample.job "" (.int 1)]
    view.columns ≠ [] ∧ run.1.error = none ∧ IsGrid 5 2 run.2.received.toList := by
  intro view run
  have filled : view.columns ≠ [] := by decide +kernel
  have unfailed : run.1.error = none := by decide +kernel
  obtain ⟨texts, made, -, -, -, grid, -⟩ := read_as_written_iff_plain Sample.jobs Sample.options
    [Sample.job "a b" (.int 1536), Sample.job "" (.int 1)] filled unfailed
  have computed : [Sample.job "a b" (.int 1536), Sample.job "" (.int 1)].map
      (TableView.row view.columns Sample.options.formatters) =
        [["a b", "1.5 KiB"], ["", "1 B"]].map .ok := by rfl
  obtain rfl := (List.map_inj_right fun _ _ => Except.ok.inj).1 (made.symm.trans computed)
  exact ⟨filled, unfailed, grid.2 ⟨by decide +kernel, by decide +kernel⟩⟩

/-- A name with a tab and a line feed makes a cell and a line of its own. -/
theorem separators_break_grid :
    let view := TableView.ofDescriptor
      { name := "Job", fields := [.scalar { key := "name", title := some "NAME" }] } {}
    let run := view.render ({} : Transcript) [Sample.job "a\tb\nc" .nil]
    view.columns.length = 1 ∧ run.1.error = none ∧
      run.2.received = "NAME\n----\na\tb\nc\n" ∧ ¬ IsGrid 3 1 run.2.received.toList := by
  intro view run
  exact ⟨rfl, by decide +kernel, by decide +kernel, by decide +kernel⟩

end StatusReport
