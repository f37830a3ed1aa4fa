import StatusReport.Proofs.Report.Script

/-! # Tables and listings agree

The columns of a table are collected once, by a walk that keeps the visible leaves; a listing walks
the same tree for each record, and puts headers between the entries of its leaves. Both take the
texts of the same leaves in the same order and stop at the first leaf that has none, so for one
record the entries of the listing are the filled cells of its row.

* `filledCells`: the titles and texts of the cells of a row that are not empty.
* `DetailView.entries`: the titles and texts of the entries among lines.
* `DetailView.entries_linesOfAll`: the two walks agree.
* `listing_agrees_with_row`: so do the two reports.
-/

namespace StatusReport

/-! ## Lists made one after the other -/

/-- A list, then another one behind it, unless the first cannot be made. -/
def andThen {ε α : Type _} (first second : Except ε (List α)) : Except ε (List α) :=
  match first with
  | .error e => .error e
  | .ok a => second.map (a ++ ·)

theorem andThen_eq_ok_iff {ε α : Type _} {first second : Except ε (List α)} {l : List α} :
    andThen first second = .ok l ↔ ∃ a b, first = .ok a ∧ second = .ok b ∧ l = a ++ b := by
  cases first with
  | error e => simp [andThen]
  | ok a => cases second <;> simp [andThen, Except.map, eq_comm]

theorem map_andThen {ε α β : Type _} {first second : Except ε (List α)} {f g h : List α → List β}
    (splits : ∀ a b, first = .ok a → second = .ok b → f (a ++ b) = g a ++ h b) :
    (andThen first second).map f = andThen (first.map g) (second.map h) := by
  cases first with
  | error e => rfl
  | ok a =>
    cases second with
    | error e => rfl
    | ok b => exact congrArg Except.ok (splits a b rfl rfl)

theorem map_eq_map_cases {ε α β γ : Type _} {first : Except ε α} {second : Except ε β}
    {f : α → γ} {g : β → γ} (same : first.map f = second.map g) :
    (∃ e, first = .error e ∧ second = .error e) ∨
      ∃ a b, first = .ok a ∧ second = .ok b ∧ f a = g b := by
  cases first with
  | error e =>
    cases second with
    | error e' => exact .inl ⟨e, rfl, by rw [Except.error.inj same]⟩
    | ok b => cases same
  | ok a =>
    cases second with
    | error e => cases same
    | ok b => exact .inr ⟨a, b, rfl, rfl, Except.ok.inj same⟩

/-! ## Rows -/

/-- The cells of a row that are not empty, each with the title of its column. -/
def filledCells (columns : List Column) (texts : List String) : List (String × String) :=
  ((columns.map (·.leaf.title)).zip texts).filter (·.2 ≠ "")

theorem filledCells_append {a : List Column} {texts : List String}
    (h : texts.length = a.length) (b : List Column) (more : List String) :
    filledCells (a ++ b) (texts ++ more) = filledCells a texts ++ filledCells b more := by
  rw [filledCells, List.map_append, List.zip_append (by simp [h]), List.filter_append]
  rfl

namespace TableView

theorem row_append (a b : List Column) (formatters : Registry) (r : Record) :
    row (a ++ b) formatters r = andThen (row a formatters r) (row b formatters r) := by
  induction a with
  | nil =>
    rw [List.nil_append, row]
    cases row b formatters r <;> rfl
  | cons column rest ih =>
    rw [List.cons_append, row, row, ih]
    cases leafText column.leaf formatters r with
    | error e => rfl
    | ok text =>
      cases row rest formatters r with
      | error e => rfl
      | ok texts => cases row b formatters r <;> rfl

theorem length_row {columns : List Column} {formatters : Registry} {r : Record}
    {texts : List String} (h : row columns formatters r = .ok texts) :
    texts.length = columns.length := by
  induction columns generalizing texts with
  | nil =>
    cases h
    rfl
  | cons column rest ih =>
    obtain ⟨text, others, -, made, rfl⟩ := row_cons_eq_ok_iff.1 h
    rw [List.length_cons, List.length_cons, ih made]

end TableView

/-! ## Lines -/

namespace DetailView

open TableView (row row_append length_row)

def Line.entry? : Line → Option (String × String)
  | .header _ _ => none
  | .entry _ title text => some (title, text)

def entries (lines : List Line) : List (String × String) := lines.filterMap Line.entry?

theorem entries_append (a b : List Line) : entries (a ++ b) = entries a ++ entries b := by
  simp [entries]

theorem linesOfAll_cons (visibility : Visibility) (formatters : Registry) (r : Record)
    (depth : Nat) (node : Node) (rest : List Node) :
    linesOfAll visibility formatters r depth (node :: rest) =
      andThen (linesOf visibility formatters r depth node)
        (linesOfAll visibility formatters r depth rest) := by
  rw [linesOfAll]
  cases linesOf visibility formatters r depth node with
  | error e => rfl
  | ok lines => cases linesOfAll visibility formatters r depth rest <;> rfl

mutual

/-- A listing and a table make the same of a node. -/
theorem entries_linesOf (visibility : Visibility) (formatters : Registry) (r : Record)
    (depth : Nat) (around : Option ColumnGroup) (node : Node) :
    (linesOf visibility formatters r depth node).map entries =
      (row (columnsOf visibility around node) formatters r).map
        (filledCells (columnsOf visibility around node)) := by
  cases node with
  | leaf label =>
    rw [linesOf, columnsOf]
    cases visibility.isShown label.id with
    | false => rfl
    | true =>
      simp only [if_true, row]
      cases leafText label formatters r with
      | error e => rfl
      | ok text =>
        by_cases empty : text = "" <;>
          simp [Except.map, empty, entries, filledCells, Line.entry?]
  | group label name flatten children =>
    rw [linesOf, columnsOf]
    cases flatten with
    | true => exact entries_linesOfAll visibility formatters r depth around children
    | false =>
      have inside := entries_linesOfAll visibility formatters r (depth + 1)
        (some ⟨label.id, name⟩) children
      simp only [Bool.false_eq_true, if_false, ← inside]
      -- A header is no entry, and it is there only if lines are.
      obtain e | (_ | ⟨line, rest⟩) := linesOfAll visibility formatters r (depth + 1) children <;>
        rfl

theorem entries_linesOfAll (visibility : Visibility) (formatters : Registry) (r : Record)
    (depth : Nat) (around : Option ColumnGroup) (nodes : List Node) :
    (linesOfAll visibility formatters r depth nodes).map entries =
      (row (columnsOfAll visibility around nodes) formatters r).map
        (filledCells (columnsOfAll visibility around nodes)) := by
  cases nodes with
  | nil => rfl
  | cons node rest =>
    -- Both walks go on with the rest only if the first node made all of its texts.
    rw [linesOfAll_cons, columnsOfAll, row_append,
      map_andThen fun a b _ _ => entries_append a b,
      map_andThen fun a b made _ => filledCells_append (length_row made) _ b,
      entries_linesOf visibility formatters r depth around node,
      entries_linesOfAll visibility formatters r depth around rest]

end

/-! ## Reports -/

/-- The lines of a record, all top-level fields together. -/
def lines (view : DetailView) (r : Record) : Except ViewError (List Line) :=
  linesOfAll view.visibility view.formatters r 0 view.roots

theorem ending_join_fieldScript (visibility : Visibility) (formatters : Registry) (r : Record)
    (nodes : List Node) :
    (Script.join (nodes.map (fieldScript visibility formatters r))).ending =
      (linesOfAll visibility formatters r 0 nodes).map fun _ => () := by
  induction nodes with
  | nil => rfl
  | cons node rest ih =>
    rw [List.map_cons, Script.join_cons, linesOfAll_cons, fieldScript]
    cases linesOf visibility formatters r 0 node with
    | error e =>
      rw [Script.append_of_error rfl]
      rfl
    | ok made =>
      rw [Script.append_of_ok rfl, ih, andThen]
      cases linesOfAll visibility formatters r 0 rest <;> rfl

theorem lines_join_fieldScript {visibility : Visibility} {formatters : Registry} {r : Record}
    {nodes : List Node} {made : List Line}
    (h : linesOfAll visibility formatters r 0 nodes = .ok made) :
    (Script.join (nodes.map (fieldScript visibility formatters r))).lines =
      made.map Line.text := by
  induction nodes generalizing made with
  | nil =>
    cases h
    rfl
  | cons node rest ih =>
    rw [linesOfAll_cons] at h
    obtain ⟨a, b, first, others, rfl⟩ := andThen_eq_ok_iff.1 h
    rw [List.map_cons, Script.join_cons, fieldScript, first, Script.append_of_ok rfl, ih others,
      List.map_append]
    rfl

theorem received_of_lines {view : DetailView} (fresh : view.error = none) {r : Record}
    {lines : List Line} (made : view.lines r = .ok lines) :
    (view.render ({} : Transcript) r).2.received = listingText lines := by
  rw [← unlines_map_text, ← lines_join_fieldScript made]
  exact Report.received_render view fresh r

theorem result_eq_lines {view : DetailView} (fresh : view.error = none) (r : Record) :
    (view.render ({} : Transcript) r).1.result = (view.lines r).map fun _ => () :=
  (Report.result_render_keeps view Transcript.keeps fresh "" r).trans
    (ending_join_fieldScript _ _ _ _)

theorem lines_of_ended {view : DetailView} (fresh : view.error = none) {r : Record}
    (ended : (view.render ({} : Transcript) r).1.result = .ok ()) :
    ∃ lines, view.lines r = .ok lines := by
  have walked := (result_eq_lines fresh r).symm.trans ended
  cases made : view.lines r with
  | error e =>
    rw [made] at walked
    cases walked
  | ok lines => exact ⟨lines, rfl⟩

end DetailView

namespace TableView

theorem ending_script_singleton (view : TableView) (r : Record) :
    (view.script [r]).ending = (row view.columns view.formatters r).map fun _ => () := by
  by_cases empty : view.columns = []
  · rw [script_of_empty empty, empty]
    rfl
  · cases made : row view.columns view.formatters r with
    | error e =>
      have none : ([] : List Record).map (row view.columns view.formatters) =
          ([] : List (List String)).map .ok := rfl
      have stopped := script_of_failure empty none made []
      rw [List.nil_append] at stopped
      rw [stopped]
      rfl
    | ok texts =>
      have rows : [r].map (row view.columns view.formatters) = [texts].map .ok := by
        rw [List.map_singleton, made, List.map_singleton]
      rw [script_of_rows empty rows]
      rfl

theorem output_script_singleton {view : TableView} {r : Record} {texts : List String}
    (h : row view.columns view.formatters r = .ok texts) :
    (view.script [r]).output =
      if view.columns = [] then "" else gridText (headerCells view.columns ++ [texts]) := by
  by_cases empty : view.columns = []
  · rw [if_pos empty, script_of_empty empty]
    rfl
  · have rows : [r].map (row view.columns view.formatters) = [texts].map .ok := by
      rw [List.map_singleton, h, List.map_singleton]
    rw [if_neg empty, script_of_rows empty rows]
    exact unlines_header_append view.columns [texts]

end TableView

/-- For every record, a listing ends as the table of that record alone does, with the same error if
    with one. If both succeed, the entries of the listing are the titles and texts of the cells of
    the row that are not empty, in the order of the columns. An entry is written as its title, a
    colon, a tab and its text, behind two blanks for each boxed group around it, and all that is
    written beside the entries are the headers of such groups. -/
theorem listing_agrees_with_row (descriptor : Descriptor) (options : ViewOptions) (r : Record) :
    let table := TableView.ofDescriptor descriptor options
    let listing := DetailView.ofDescriptor descriptor options
    let tabled := table.render ({} : Transcript) [r]
    let listed := listing.render ({} : Transcript) r
    listed.1.result = tabled.1.result ∧
      (tabled.1.result = .ok () →
        ∃ texts lines,
          TableView.row table.columns options.formatters r = .ok texts ∧
          tabled.2.received =
            (if table.columns = [] then "" else gridText (headerCells table.columns ++ [texts])) ∧
          listing.lines r = .ok lines ∧
          listed.2.received = DetailView.listingText lines ∧
          DetailView.entries lines = filledCells table.columns texts) := by
  cases built : Schema.build descriptor options.formatters with
  | error e =>
    rw [TableView.ofDescriptor_error built, DetailView.ofDescriptor_error built]
    exact ⟨rfl, fun ended => nomatch ended⟩
  | ok schema =>
    rw [TableView.ofDescriptor_ok built, DetailView.ofDescriptor_ok built]
    intro table listing tabled listed
    have same : (listing.lines r).map DetailView.entries =
        (TableView.row table.columns options.formatters r).map (filledCells table.columns) :=
      DetailView.entries_linesOfAll _ _ _ _ _ _
    have listedEnd : listed.1.result = (listing.lines r).map fun _ => () :=
      DetailView.result_eq_lines rfl r
    have tabledEnd : tabled.1.result =
        (TableView.row table.columns options.formatters r).map fun _ => () :=
      (Report.result_render_keeps table Transcript.keeps rfl "" [r]).trans
        (TableView.ending_script_singleton table r)
    rw [listedEnd, tabledEnd]
    obtain ⟨e, linesFailed, rowFailed⟩ | ⟨lines, texts, linesMade, rowMade, agree⟩ :=
      map_eq_map_cases same
    · rw [linesFailed, rowFailed]
      exact ⟨rfl, fun ended => nomatch ended⟩
    · rw [linesMade, rowMade]
      exact ⟨rfl, fun _ => ⟨texts, lines, rfl,
        (Report.received_render table rfl [r]).trans (TableView.output_script_singleton rowMade), rfl,
        DetailView.received_of_lines rfl linesMade, agree⟩⟩

/-- A job without a name has one entry, below the header of its group. -/
theorem listing_agrees_with_row_job :
    let table := TableView.ofDescriptor Sample.jobs Sample.options
    let listing := DetailView.ofDescriptor Sample.jobs Sample.options
    let r := Sample.job "" (.int 1536)
    (table.render ({} : Transcript) [r]).1.result = .ok () ∧
      (table.render ({} : Transcript) [r]).2.received =
        "\tUsage\nNAME\tMEM\n----\t---\n\t1.5 KiB\n" ∧
      (listing.render ({} : Transcript) r).2.received = "Usage:\n  MEM:\t1.5 KiB\n" ∧
      ∃ lines, listing.lines r = .ok lines ∧ DetailView.entries lines = [("MEM", "1.5 KiB")] := by
  intro table listing r
  have ended : (table.render ({} : Transcript) [r]).1.result = .ok () := by rfl
  have row : TableView.row table.columns Sample.options.formatters r = .ok ["", "1.5 KiB"] := by rfl
  have walked : listing.lines r = .ok [.header 0 "Usage", .entry 1 "MEM" "1.5 KiB"] := by rfl
  obtain ⟨texts, lines, rowMade, tabled, linesMade, listed, entries⟩ :=
    (listing_agrees_with_row Sample.jobs Sample.options r).2 ended
  cases Except.ok.inj (row.symm.trans rowMade)
  cases Except.ok.inj (walked.symm.trans linesMade)
  exact ⟨ended, tabled.trans (by rfl), listed.trans (by rfl), _, walked,
    entries.trans (by decide +kernel)⟩

end StatusReport
