import StatusReport.Proofs.Report.Spelling
import StatusReport.Proofs.Run

/-! # Reports as scripts

A table writes its header, then a line for each record; a listing writes the lines of one top-level
field after the other. What is written at once, a row or the lines of a field, is made before any
of it is written, so a call of a report performs the script of its pieces, and tables and listings
are two kinds of report.

* `TableView.script`, `DetailView.script`: the script of a call.
* `TableView.script_of_rows`, `TableView.script_of_failure`: the script of a table, row by row.
* `TableView.script_congr`, `DetailView.fieldScripts_congr`: what a script depends on.
* `TableView.render_eq`, `DetailView.render_eq`: a call performs its script.
* `Sample.jobs`, `Sample.options`: a small report, for fixed runs.
-/

namespace StatusReport

/-! ## Tables -/

namespace TableView

def recordScript (columns : List Column) (formatters : Registry) (r : Record) : Script :=
  .ofLines ((row columns formatters r).map fun texts => [cellLine texts])

def headerScript (columns : List Column) : Script := ⟨headerLines columns, .ok ()⟩

def script (view : TableView) (records : List Record) : Script :=
  if view.columns.isEmpty then {}
  else headerScript view.columns ++
    .join (records.map (recordScript view.columns view.formatters))

section Pieces

variable {columns : List Column} {formatters : Registry} {records : List Record}
  {rows : List (List String)}

theorem recordScript_of_row {r : Record} {texts : List String}
    (made : row columns formatters r = .ok texts) :
    recordScript columns formatters r = ⟨[cellLine texts], .ok ()⟩ := by
  rw [recordScript, made]
  rfl

theorem recordScript_of_error {r : Record} {e : ViewError}
    (failed : row columns formatters r = .error e) :
    recordScript columns formatters r = ⟨[], .error e⟩ := by
  rw [recordScript, failed]
  rfl

theorem getElem?_row {r : Record} {texts : List String}
    (made : row columns formatters r = .ok texts) {i : Nat} {column : Column}
    (here : columns[i]? = some column) :
    ∃ text, leafText column.leaf formatters r = .ok text ∧ texts[i]? = some text := by
  induction columns generalizing texts i with
  | nil => cases here
  | cons first rest ih =>
    obtain ⟨text, others, head, more, rfl⟩ := row_cons_eq_ok_iff.1 made
    cases i with
    | zero =>
      cases here
      exact ⟨text, head, rfl⟩
    | succ i => exact ih more here

theorem recordScripts_of_rows (made : records.map (row columns formatters) = rows.map .ok) :
    (∀ script ∈ records.map (recordScript columns formatters), script.ending = .ok ()) ∧
      (records.map (recordScript columns formatters)).flatMap Script.lines = rows.map cellLine := by
  induction records generalizing rows with
  | nil =>
    rw [List.map_nil, eq_comm, List.map_eq_nil_iff] at made
    simp [made]
  | cons r rest ih =>
    obtain _ | ⟨texts, rows⟩ := rows
    · cases made
    · rw [List.map_cons, List.map_cons, List.cons.injEq] at made
      obtain ⟨ended, lines⟩ := ih made.2
      rw [List.map_cons, recordScript_of_row made.1]
      exact ⟨List.forall_mem_cons.2 ⟨rfl, ended⟩, by rw [List.flatMap_cons, lines]; rfl⟩

variable {view : TableView}

theorem script_of_rows (filled : view.columns ≠ [])
    (made : records.map (row view.columns view.formatters) = rows.map .ok) :
    view.script records = ⟨headerLines view.columns ++ rows.map cellLine, .ok ()⟩ := by
  obtain ⟨ended, lines⟩ := recordScripts_of_rows made
  rw [script, if_neg (by simpa using filled), Script.append_of_ok rfl, Script.join_of_ok ended,
    lines]
  rfl

/-- A record without a row ends the table after its header and the rows before. -/
theorem script_of_failure {r : Record} {e : ViewError} (filled : view.columns ≠ [])
    (made : records.map (row view.columns view.formatters) = rows.map .ok)
    (failed : row view.columns view.formatters r = .error e) (later : List Record) :
    view.script (records ++ r :: later) =
      ⟨headerLines view.columns ++ rows.map cellLine, .error e⟩ := by
  obtain ⟨ended, lines⟩ := recordScripts_of_rows made
  rw [script, if_neg (by simpa using filled), Script.append_of_ok rfl, List.map_append,
    List.map_cons, recordScript_of_error failed, Script.join_of_error ended rfl, lines,
    List.append_nil]
  rfl

theorem script_of_empty (empty : view.columns = []) (records : List Record) :
    view.script records = {} := by
  rw [script, empty]
  rfl

theorem row_congr {formatters' : Registry} {r r' : Record}
    (same : ∀ column ∈ columns,
      leafText column.leaf formatters r = leafText column.leaf formatters' r') :
    row columns formatters r = row columns formatters' r' := by
  induction columns with
  | nil => rfl
  | cons column rest ih =>
    obtain ⟨first, others⟩ := List.forall_mem_cons.1 same
    rw [row, row, first, ih others]

/-- The script of a table depends on its columns and on the rows of its records alone. -/
theorem script_congr {view' : TableView} {records' : List Record}
    (columns : view.columns = view'.columns)
    (same : records.map (row view.columns view.formatters) =
      records'.map (row view'.columns view'.formatters)) :
    view.script records = view'.script records' := by
  let make (texts : Except ViewError (List String)) : Script :=
    .ofLines (texts.map fun texts => [cellLine texts])
  have scripts : records.map (recordScript view.columns view.formatters) =
      records'.map (recordScript view'.columns view'.formatters) := by
    have made := congrArg (List.map make) same
    rw [List.map_map, List.map_map] at made
    exact made
  rw [script, script, scripts, columns]

end Pieces

variable {σ : Type u} [Sink σ]

theorem writeRows_eq (columns : List Column) (formatters : Registry) (s : σ)
    (records : List Record) :
    writeRows columns formatters s records =
      Script.perform s (.join (records.map (recordScript columns formatters))) := by
  induction records generalizing s with
  | nil => rfl
  | cons r rest ih =>
    -- The row is made before its line is offered, so its error comes first.
    rw [List.map_cons, Script.join_cons, Script.perform_append, writeRows, recordScript]
    cases row columns formatters r with
    | error e => rfl
    | ok texts =>
      simp only [Except.map, Script.ofLines, Script.perform, Sink.writeLines]
      obtain ⟨s, _ | _⟩ := Sink.writeLine s (cellLine texts)
      · rfl
      · exact ih s

theorem writeTable_eq (view : TableView) (s : σ) (records : List Record) :
    writeTable view.columns view.formatters s records =
      Script.perform s (view.script records) := by
  rw [writeTable, script]
  cases view.columns.isEmpty with
  | true => rfl
  | false =>
    simp only [Bool.false_eq_true, if_false, Script.perform_append, writeRows_eq]
    rw [headerScript]
    simp only [Script.perform]
    obtain ⟨s, _ | _⟩ := Sink.writeLines s (headerLines view.columns) <;> rfl

/-- A call performs its script, unless an error came before. -/
theorem render_eq (view : TableView) (s : σ) (records : List Record) :
    view.render s records =
      ({ view with error := (Script.advance (view.error, s) (view.script records)).1 },
        (Script.advance (view.error, s) (view.script records)).2) := by
  obtain ⟨columns, formatters, _ | e⟩ := view
  · rw [render, writeTable_eq]
    simp only [Script.advance]
    obtain ⟨s, _ | _⟩ := Script.perform s _ <;> rfl
  · rfl

instance : Report TableView (List Record) where
  error := error
  withError view error := { view with error }
  result := result
  script := script
  error_withError _ _ := rfl
  withError_error _ := rfl
  withError_withError _ _ _ := rfl
  script_withError _ _ := rfl
  result_eq _ := rfl

instance : Report.On TableView σ := ⟨render, render_eq⟩

end TableView

/-! ## Listings -/

namespace DetailView

def fieldScript (visibility : Visibility) (formatters : Registry) (r : Record) (node : Node) :
    Script :=
  .ofLines ((linesOf visibility formatters r 0 node).map (·.map Line.text))

def script (view : DetailView) (r : Record) : Script :=
  .join (view.roots.map (fieldScript view.visibility view.formatters r))

/-- A leaf is shown in both of two listings, with one text, or in neither. -/
structure Alike (v w : Visibility) (formatters formatters' : Registry) (r r' : Record)
    (leaf : Label) : Prop where
  shown : v.isShown leaf.id = w.isShown leaf.id
  text : v.isShown leaf.id = true → leafText leaf formatters r = leafText leaf formatters' r'

section Congruence

variable {v w : Visibility} {formatters formatters' : Registry} {r r' : Record}

mutual

theorem linesOf_congr (depth : Nat) {node : Node}
    (alike : ∀ leaf ∈ node.leaves, Alike v w formatters formatters' r r' leaf) :
    linesOf v formatters r depth node = linesOf w formatters' r' depth node := by
  cases node with
  | leaf label =>
    rw [Node.leaves, List.forall_mem_singleton] at alike
    rw [linesOf, linesOf, ← alike.shown]
    cases shown : v.isShown label.id with
    | true => rw [alike.text shown]
    | false => rfl
  | group label name flatten children =>
    rw [linesOf, linesOf, linesOfAll_congr depth alike, linesOfAll_congr (depth + 1) alike]

theorem linesOfAll_congr (depth : Nat) {nodes : List Node}
    (alike : ∀ leaf ∈ Node.leavesOf nodes, Alike v w formatters formatters' r r' leaf) :
    linesOfAll v formatters r depth nodes = linesOfAll w formatters' r' depth nodes := by
  cases nodes with
  | nil => rfl
  | cons node rest =>
    rw [Node.leavesOf, List.forall_mem_append] at alike
    rw [linesOfAll, linesOfAll, linesOf_congr depth alike.1, linesOfAll_congr depth alike.2]

end

theorem fieldScripts_congr {nodes : List Node}
    (alike : ∀ leaf ∈ Node.leavesOf nodes, Alike v w formatters formatters' r r' leaf) :
    nodes.map (fieldScript v formatters r) = nodes.map (fieldScript w formatters' r') := by
  induction nodes with
  | nil => rfl
  | cons node rest ih =>
    rw [Node.leavesOf, List.forall_mem_append] at alike
    rw [List.map_cons, List.map_cons, ih alike.2, fieldScript, fieldScript, linesOf_congr 0 alike.1]

end Congruence

variable {σ : Type u} [Sink σ]

theorem writeFields_eq (visibility : Visibility) (formatters : Registry) (r : Record) (s : σ)
    (nodes : List Node) :
    writeFields visibility formatters r s nodes =
      Script.perform s (.join (nodes.map (fieldScript visibility formatters r))) := by
  induction nodes generalizing s with
  | nil => rfl
  | cons node rest ih =>
    -- All lines of the field are made before the first one is offered.
    rw [List.map_cons, Script.join_cons, Script.perform_append, writeFields, fieldScript]
    cases linesOf visibility formatters r 0 node with
    | error e => rfl
    | ok lines =>
      simp only [Except.map, Script.ofLines, Script.perform]
      obtain ⟨s, _ | _⟩ := Sink.writeLines s (lines.map Line.text)
      · rfl
      · exact ih s

theorem render_eq (view : DetailView) (s : σ) (r : Record) :
    view.render s r =
      ({ view with error := (Script.advance (view.error, s) (view.script r)).1 },
        (Script.advance (view.error, s) (view.script r)).2) := by
  obtain ⟨roots, visibility, formatters, _ | e⟩ := view
  · rw [render, writeFields_eq]
    simp only [Script.advance, script]
    obtain ⟨s, _ | _⟩ := Script.perform s _ <;> rfl
  · rfl

instance : Report DetailView Record where
  error := error
  withError view error := { view with error }
  result := result
  script := script
  error_withError _ _ := rfl
  withError_error _ := rfl
  withError_withError _ _ _ := rfl
  script_withError _ _ := rfl
  result_eq _ := rfl

instance : Report.On DetailView σ := ⟨render, render_eq⟩

end DetailView

/-! ## A small report -/

namespace Sample

/-- Jobs: a name, and inside a boxed group the time and the memory that were used. -/
def jobs : Descriptor where
  name := "Job"
  fields := [
    .scalar { key := "name", title := some "NAME" },
    .record { key := "usage", group := some ⟨"Usage", false⟩ } "Usage" [
      .scalar { key := "time", title := some "TIME" },
      .scalar { key := "memory", title := some "MEM", format := some Formatter.byteSizeId }]]

def nameLeaf : Label := Schema.labelOf [] [] { key := "name", title := some "NAME" } 1

def timeLeaf : Label := Schema.labelOf [] ["usage"] { key := "time", title := some "TIME" } 3

def memoryLeaf : Label := Schema.labelOf [] ["usage"]
  { key := "memory", title := some "MEM", format := some Formatter.byteSizeId } 4

def usageGroup : Node :=
  .group (Schema.labelOf [] [] { key := "usage", group := some ⟨"Usage", false⟩ } 2) "Usage" false
    [.leaf timeLeaf, .leaf memoryLeaf]

def schema : Schema := ⟨"Job", [.leaf nameLeaf, usageGroup], 5⟩

theorem build_jobs : Schema.build jobs {} = .ok schema := rfl

theorem leaves_schema : schema.leaves = [nameLeaf, timeLeaf, memoryLeaf] := rfl

/-- A job. Its memory is refused if it is no number. -/
def job (name : String) (memory : Value) : Record where
  field key :=
    if key = "name" then .str name
    else if key = "usage" then .record (fun key => if key = "memory" then memory else .nil) ""
    else .nil

def options : ViewOptions := ({} : ViewOptions).addHidden "time"

end Sample

end StatusReport
