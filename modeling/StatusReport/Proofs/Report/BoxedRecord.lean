import StatusReport.Proofs.Report.MovedNodes
import StatusReport.Proofs.Report.SchemaErrors

/-! # Boxed records

A record type can be the type of the only field of another record type. If that field is a boxed
group, then the reports of the outer type are those of the inner one with a frame around them: the
same table under a row of labels, and the same listing under a header. Errors name the same fields,
one key further down.

* `Descriptor.boxed`, `Record.Holds`: the outer type, and its records.
* `SchemaError.below`, `ViewError.below`: errors one key further down.
* `TableView.groupLines`, `TableView.bodyLines`: the lines of a table, above its titles and from
  these on.
* `DetailView.linesOfAll_succ`: the lines of nodes below one more group.
* `boxing_frames_reports`: what the outer type shows.
-/

namespace StatusReport

/-! ## Records -/

/-- A record holds another one at a key, behind any number of indirections. -/
def Record.Holds (key : String) (inner outer : Record) : Prop :=
  (outer.field key).concrete? = some (.ofRecord inner)

theorem Record.Holds.extract_eq {key : String} {inner outer : Record} (holds : Holds key inner outer)
    {selector : List String} (below : selector ≠ []) :
    outer.extract (key :: selector) = inner.extract selector := by
  obtain ⟨next, rest, rfl⟩ := List.exists_cons_of_ne_nil below
  rw [extract_cons_cons, holds]
  rfl

/-! ## Errors -/

def SchemaError.below (key : String) : SchemaError → SchemaError
  | .unknownFormatter field formatter => .unknownFormatter (key ++ "." ++ field) formatter

/-- The same error one key further down. The sink has no keys. -/
def ViewError.below (key : String) : ViewError → ViewError
  | .schema e => .schema (e.below key)
  | .format selector e => .format (key ++ "." ++ selector) e
  | .sink e => .sink e

theorem Visit.unknown?_below (formatters : Registry) (key : String) (visit : Visit) :
    (visit.below key).unknown? formatters =
      (visit.unknown? formatters).map (SchemaError.below key) := by
  have selector : (visit.below key).selector = key :: visit.selector := rfl
  have field : (visit.below key).field = visit.field := rfl
  have filled : visit.selector ≠ [] := List.append_ne_nil_of_right_ne_nil _ (List.cons_ne_nil _ _)
  rw [unknown?, unknown?, selector, field, String.intercalate_cons_of_ne_nil filled]
  cases visit.field.spec.format with
  | none => rfl
  | some id =>
    simp only
    cases formatters.get? id <;> rfl

/-! ## Types -/

/-- The record type whose only field is a boxed group of this type. -/
def Descriptor.boxed (nested : Descriptor) (boxedName key name : String)
    (title defaultText : Option String) : Descriptor :=
  ⟨boxedName, [.grouped key ⟨name, false⟩ title defaultText nested.name nested.fields]⟩

namespace Schema

variable {formatters : Registry} {nested : Descriptor} {boxedName key name : String}
  {title defaultText : Option String}

/-- Boxing adds no error, and drops none: it names the field from the outer type. -/
theorem build_boxed_eq_error_iff {e : SchemaError} :
    build (nested.boxed boxedName key name title defaultText) formatters = .error e ↔
      ∃ inner, build nested formatters = .error inner ∧ e = inner.below key := by
  have passed : Visit.unknown? formatters
      ⟨[], .grouped key ⟨name, false⟩ title defaultText nested.name nested.fields⟩ = none := rfl
  have walk : (nested.boxed boxedName key name title defaultText).visits =
      ⟨[], .grouped key ⟨name, false⟩ title defaultText nested.name nested.fields⟩ ::
        nested.visits.map (.below key) := by
    rw [Descriptor.visits, Descriptor.visits, Descriptor.boxed, Field.visitsAll,
      Field.visits_grouped, List.nil_append, Field.visitsAll_below, Field.visitsAll, List.append_nil]
  have errors : ((·.unknown? formatters) ∘ Visit.below key : Visit → Option SchemaError) =
      Option.map (SchemaError.below key) ∘ (·.unknown? formatters) :=
    funext (Visit.unknown?_below formatters key)
  simp only [build_eq_error_iff, walk, List.findSome?_cons, passed, List.findSome?_map, errors,
    ← List.map_findSome?, Option.map_eq_some_iff]
  exact exists_congr fun inner => and_congr_right fun _ => eq_comm

theorem exists_build_boxed {schema : Schema} (built : build nested formatters = .ok schema) :
    ∃ schema', build (nested.boxed boxedName key name title defaultText) formatters = .ok schema' ∧
      ∃ label, label.address = key ∧
        schema'.roots = [.group label name false (Node.movedAll [key] 1 schema.roots)] := by
  have tree := (build_eq_ok_iff.1 built).2
  have tree' := @Built.grouped _ _ _ _ _ _ _ _ key nested.name ⟨name, false⟩ title defaultText
    tree .nil
  exact ⟨⟨_, _, _⟩, build_eq_ok_iff.2 ⟨rfl, tree'⟩, _, address_labelOf _ _ _, rfl⟩

end Schema

/-! ## Columns -/

structure Label.Boxes (formatters : Registry) (key : String) (leaf leaf' : Label) : Prop where
  path : leaf'.selectorPath = key ++ "." ++ leaf.selectorPath
  title : leaf'.title = leaf.title
  cell : ∀ inner outer, Record.Holds key inner outer → SameCell formatters inner outer leaf leaf'

section Columns

variable {formatters : Registry} {v w : Visibility} {S : Record → Record → Prop} {nodes : List Node}

theorem FaithfulMove.map_leaf {around : List String} {shift : Nat}
    (move : FaithfulMove v w S around shift nodes) (group group' : Option ColumnGroup) :
    (columnsOfAll w group' (Node.movedAll around shift nodes)).map (·.leaf) =
      ((columnsOfAll v group nodes).map (·.leaf)).map (.moved around shift) := by
  rw [map_leaf_columnsOfAll, map_leaf_columnsOfAll, Node.leavesOf_movedAll, List.filter_map]
  exact congrArg _ (List.filter_congr move.shown)

theorem FaithfulMove.boxes {key : String}
    (move : FaithfulMove v w (Record.Holds key) [key] 1 nodes) (ignore : formatters.IgnoreRecords)
    (filled : ∀ leaf ∈ Node.leavesOf nodes, leaf.selector ≠ []) (group : Option ColumnGroup) :
    List.Forall₂ (fun c c' => Label.Boxes formatters key c.leaf c'.leaf) (columnsOfAll v none nodes)
      (columnsOfAll w group (Node.movedAll [key] 1 nodes)) := by
  have labels : List.Forall₂ (Label.Boxes formatters key)
      ((columnsOfAll v none nodes).map (·.leaf))
      ((columnsOfAll w group (Node.movedAll [key] 1 nodes)).map (·.leaf)) := by
    rw [move.map_leaf none group, List.forall₂_map_right_iff, List.forall₂_same]
    intro leaf member
    rw [map_leaf_columnsOfAll] at member
    have inside := (List.mem_filter.1 member).1
    exact
      { path := String.intercalate_cons_of_ne_nil (filled leaf inside)
        title := rfl
        cell := fun _ _ holds => move.sameCell ignore holds inside }
  rwa [List.forall₂_map_left_iff, List.forall₂_map_right_iff] at labels

end Columns

/-! ## Lines of a table -/

namespace TableView

def groupLines (columns : List Column) : List String :=
  if columns.any (·.group.isSome) then ["\t".intercalate (groupCells none true columns)] else []

/-- The lines from the titles on: the titles, their underlines, and the rows. -/
def bodyLines (columns : List Column) (rows : List (List String)) : List String :=
  if columns = [] then []
  else
    let titles := columns.map (·.leaf.title)
    "\t".intercalate titles ::
      "\t".intercalate
        (titles.map fun title => String.ofList (List.replicate (Text.visualWidth title) '-')) ::
      rows.map fun cells => "\t".intercalate cells

theorem tableLines_eq (columns : List Column) (rows : List (List String)) :
    tableLines columns rows = groupLines columns ++ bodyLines columns rows := by
  rw [tableLines, bodyLines]
  by_cases empty : columns = []
  · rw [if_pos empty, if_pos empty, empty]
    rfl
  · rw [if_neg empty, if_neg empty, headerLines_eq, headerCells, groupLines, List.map_append,
      List.append_assoc]
    cases columns.any (·.group.isSome) <;> rfl

theorem bodyLines_of_titles {columns columns' : List Column}
    (titles : columns'.map (·.leaf.title) = columns.map (·.leaf.title)) (rows : List (List String)) :
    bodyLines columns' rows = bodyLines columns rows := by
  have empty : columns' = [] ↔ columns = [] := by
    rw [← List.map_eq_nil_iff, titles, List.map_eq_nil_iff]
  rw [bodyLines, bodyLines, titles]
  simp only [empty]

/-- Where the columns of a table are those of another one inside a group, so are the errors. -/
theorem SameEnd.eq_below {R : Column → Column → Prop} {view view' : TableView}
    {records records' : List Record} {ending ending' : Except ViewError Unit} {key : String}
    (alike : SameEnd R view view' records records' ending ending')
    (paths : ∀ c c', R c c' → c'.leaf.selectorPath = key ++ "." ++ c.leaf.selectorPath)
    (noSchema : ∀ e, ending ≠ .error (.schema e)) :
    ending' = ending.mapError (.below key) := by
  cases alike with
  | done => rfl
  | schema e e' => exact absurd rfl (noSchema e)
  | sink e => rfl
  | refused failure failure' record column cause related =>
    rw [RowFailure.error, RowFailure.error, cause, paths _ _ related]
    rfl

section Twins

variable {formatters : Registry} {key : String} {view view' : TableView}
  {records records' : List Record}

/-- The table of the outer type writes the body of the table of the inner one, and ends as that. -/
theorem received_of_boxes
    (twins : Twins (fun c c' => Label.Boxes formatters key c.leaf c'.leaf) (Record.Holds key) view
      view')
    (fresh : view.error = none) (fresh' : view'.error = none)
    (pairs : List.Forall₂ (Record.Holds key) records records') :
    (∃ shown rows, shown <+: records ∧
      shown.map (row view.columns view.formatters) = rows.map .ok ∧
      (view.render ({} : Transcript) records).2.received =
        unlines (groupLines view.columns ++ bodyLines view.columns rows) ∧
      (view'.render ({} : Transcript) records').2.received =
        unlines (groupLines view'.columns ++ bodyLines view.columns rows)) ∧
    (view'.render ({} : Transcript) records').1.result =
      (view.render ({} : Transcript) records).1.result.mapError (.below key) ∧
    SameEnd (fun c c' => c'.leaf.selectorPath = key ++ "." ++ c.leaf.selectorPath) view view' records
      records' (view.render ({} : Transcript) records).1.result
      (view'.render ({} : Transcript) records').1.result := by
  obtain ⟨rows, ⟨shown, first, made⟩, lines, lines', alike⟩ := twins.script pairs
  have titles : view'.columns.map (·.leaf.title) = view.columns.map (·.leaf.title) := by
    have same := twins.columns.imp fun _ _ boxes => boxes.title.symm
    rw [← List.forall₂_map_right_iff, ← List.forall₂_map_left_iff, List.forall₂_eq_eq_eq] at same
    exact same.symm
  have noSchema := noSchemaError_script twins.known records
  have ended : (view.render ({} : Transcript) records).1.result = (view.script records).ending :=
    Report.result_render_keeps view Transcript.keeps fresh "" records
  have ended' : (view'.render ({} : Transcript) records').1.result =
      (view'.script records').ending :=
    Report.result_render_keeps view' Transcript.keeps fresh' "" records'
  rw [tableLines_eq] at lines
  rw [tableLines_eq, bodyLines_of_titles titles] at lines'
  rw [ended, ended']
  exact ⟨⟨shown, rows, first, made,
      (Report.received_render view fresh records).trans (congrArg unlines lines),
      (Report.received_render view' fresh' records').trans (congrArg unlines lines')⟩,
    alike.eq_below (fun _ _ boxes => boxes.path) noSchema, alike.imp fun _ _ boxes => boxes.path⟩

end Twins

end TableView

/-! ## Lines of a listing -/

namespace DetailView

def Line.deeper : Line → Line
  | .header depth name => .header (depth + 1) name
  | .entry depth title text => .entry (depth + 1) title text

theorem Line.spelled_deeper (line : Line) : line.deeper.spelled = "  " ++ line.spelled := by
  have depth : 2 * line.deeper.depth = 2 + 2 * line.depth := by
    cases line <;> simp only [deeper, Line.depth] <;> omega
  have words : line.deeper.words = line.words := by
    cases line <;> rfl
  have blanks : String.ofList (List.replicate (2 + 2 * line.depth) ' ') =
      "  " ++ String.ofList (List.replicate (2 * line.depth) ' ') := by
    rw [List.replicate_add, String.ofList_append]
    rfl
  rw [spelled, spelled, depth, words, blanks, String.append_assoc]

section Deeper

variable (visibility : Visibility) (formatters : Registry) (r : Record)

mutual

theorem linesOf_succ (depth : Nat) (node : Node) :
    linesOf visibility formatters r (depth + 1) node =
      (linesOf visibility formatters r depth node).map (·.map Line.deeper) := by
  cases node with
  | leaf label =>
    rw [linesOf, linesOf]
    cases visibility.isShown label.id with
    | false => rfl
    | true =>
      simp only [if_true]
      cases leafText label formatters r with
      | error e => rfl
      | ok text => by_cases empty : text = "" <;> simp [empty, Except.map, Line.deeper]
  | group label name flatten children =>
    rw [linesOf, linesOf]
    cases flatten with
    | true => exact linesOfAll_succ depth children
    | false =>
      simp only [Bool.false_eq_true, if_false]
      rw [linesOfAll_succ (depth + 1) children]
      -- With no line inside there is no header in either listing.
      obtain e | (_ | ⟨line, rest⟩) := linesOfAll visibility formatters r (depth + 1) children <;>
        rfl

/-- Below one more boxed group there are the same lines, further to the right. -/
theorem linesOfAll_succ (depth : Nat) (nodes : List Node) :
    linesOfAll visibility formatters r (depth + 1) nodes =
      (linesOfAll visibility formatters r depth nodes).map (·.map Line.deeper) := by
  cases nodes with
  | nil => rfl
  | cons node rest =>
    rw [linesOfAll_cons, linesOfAll_cons, linesOf_succ depth node, linesOfAll_succ depth rest,
      map_andThen fun a b _ _ => List.map_append]

end

end Deeper

/-- Lines under the header of a boxed group. Where there are none, there is no header. -/
def framed (name : String) : List Line → List Line
  | [] => []
  | line :: rest => .header 0 name :: (line :: rest).map Line.deeper

theorem map_spelled_framed (name : String) (lines : List Line) :
    (framed name lines).map Line.spelled =
      if lines = [] then [] else (name ++ ":") :: lines.map fun line => "  " ++ line.spelled := by
  cases lines with
  | nil => rfl
  | cons line rest =>
    have header : (Line.header 0 name).spelled = name ++ ":" := String.empty_append
    rw [framed, List.map_cons, header, List.map_map, if_neg (List.cons_ne_nil _ _)]
    exact congrArg _ (List.map_congr_left fun line _ => line.spelled_deeper)

theorem linesOfAll_boxed (visibility : Visibility) (formatters : Registry) (r : Record)
    (label : Label) {name : String} (named : name ≠ "") (children : List Node) :
    linesOfAll visibility formatters r 0 [.group label name false children] =
      (linesOfAll visibility formatters r 0 children).map (framed name) := by
  rw [linesOfAll_cons, linesOfAll, linesOf, headerName, if_neg named, linesOfAll_succ]
  -- The header is there exactly if the group has a line.
  obtain e | (_ | ⟨line, rest⟩) := linesOfAll visibility formatters r 0 children
  · rfl
  · rfl
  · exact congrArg Except.ok (List.append_nil _)

theorem received_of_framed {view view' : DetailView} {r r' : Record} {name : String}
    (fresh : view.error = none) (fresh' : view'.error = none)
    (same : (view'.lines r').toOption = ((view.lines r).map (framed name)).toOption) :
    ((view.render ({} : Transcript) r).1.result = .ok () ↔
      (view'.render ({} : Transcript) r').1.result = .ok ()) ∧
    ((view.render ({} : Transcript) r).1.result = .ok () → ∃ lines,
      view.lines r = .ok lines ∧
      (view.render ({} : Transcript) r).2.received = listingText lines ∧
      (view'.render ({} : Transcript) r').2.received =
        unlines (if lines = [] then []
          else (name ++ ":") :: lines.map fun line => "  " ++ line.spelled)) := by
  cases made : view.lines r with
  | error e =>
    rw [made] at same
    have never := result_ne_ok_of_lines (s := ({} : Transcript)) fresh made
    obtain ⟨_, e', -, failed⟩ | ⟨_, here, -⟩ := toOption_eq_cases same
    · have never' := result_ne_ok_of_lines (s := ({} : Transcript)) fresh' failed
      exact ⟨iff_of_false never never', fun ended => absurd ended never⟩
    · cases here
  | ok lines =>
    rw [made] at same
    have made' : view'.lines r' = .ok (framed name lines) := toOption_eq_some_iff.1 same
    have listed := received_of_lines fresh made
    have listed' := received_of_lines fresh' made'
    rw [listingText, map_spelled_framed] at listed'
    rw [result_eq_lines fresh, result_eq_lines fresh', made, made']
    exact ⟨Iff.rfl, fun _ => ⟨lines, rfl, listed, listed'⟩⟩

end DetailView

/-! ## Reports -/

section Reports

variable {nested : Descriptor} {boxedName key name : String} {title defaultText : Option String}
  {options : ViewOptions} {schema schema' : Schema} {label : Label}

theorem faithful_of_boxed (built : Schema.build nested options.formatters = .ok schema)
    (built' : Schema.build (nested.boxed boxedName key name title defaultText) options.formatters =
      .ok schema')
    (address : label.address = key)
    (roots : schema'.roots = [.group label name false (Node.movedAll [key] 1 schema.roots)])
    (unlisted : ¬ options.directive.Lists key) :
    FaithfulMove (.resolve schema options.directive) (.resolve schema' options.directive)
      (Record.Holds key) [key] 1 schema.roots where
  shown := by
    have here := Visibility.followsAll_resolve built options.directive
    have there := Visibility.followsAll_resolve built' options.directive
    rw [roots] at there
    have below := there.1.2
    rw [address, Directive.shows_of_not_lists unlisted] at below
    exact here.moved below
  extract_eq _ member _ _ holds :=
    holds.extract_eq ((Schema.build_eq_ok_iff.1 built).2.selector_ne_nil member)

variable (built : Schema.build nested options.formatters = .ok schema)
  (built' : Schema.build (nested.boxed boxedName key name title defaultText) options.formatters =
    .ok schema')
  (roots : schema'.roots = [.group label name false (Node.movedAll [key] 1 schema.roots)])
  (faithful : FaithfulMove (.resolve schema options.directive) (.resolve schema' options.directive)
    (Record.Holds key) [key] 1 schema.roots) (ignore : options.formatters.IgnoreRecords)

include built built' roots faithful ignore

theorem twins_of_boxed :
    TableView.Twins (fun c c' => Label.Boxes options.formatters key c.leaf c'.leaf)
      (Record.Holds key) (.ofDescriptor nested options)
      (.ofDescriptor (nested.boxed boxedName key name title defaultText) options) := by
  have tree := (Schema.build_eq_ok_iff.1 built).2
  rw [TableView.ofDescriptor_ok built, TableView.ofDescriptor_ok built']
  refine ⟨rfl, ?_, fun _ _ boxes => boxes.cell, known_of_build built _, known_of_build built' _⟩
  rw [columns, columns, roots, columnsOfAll, columnsOf, columnsOfAll, List.append_nil]
  exact faithful.boxes ignore (fun _ member => tree.selector_ne_nil member) _

theorem lines_of_boxed (named : name ≠ "") {r r' : Record} (holds : Record.Holds key r r') :
    ((DetailView.ofDescriptor (nested.boxed boxedName key name title defaultText) options).lines
        r').toOption =
      (((DetailView.ofDescriptor nested options).lines r).map (DetailView.framed name)).toOption := by
  rw [DetailView.ofDescriptor_ok built, DetailView.ofDescriptor_ok built', DetailView.lines,
    DetailView.lines, roots, DetailView.linesOfAll_boxed _ _ _ _ named]
  obtain ⟨e, e', here, there⟩ | ⟨lines, here, there⟩ :=
    toOption_eq_cases (faithful.lines ignore holds 0)
  · rw [here, there]
    rfl
  · rw [here, there]

end Reports

/-- A record type is made the type of the only field of another one, a boxed group with a name that
    the directive does not list. If formatters look at values alone, then the schemas of both types
    are built or neither is, and an error names the same formatter and the same field from the outer
    type. For records that hold others, the table of the outer type writes the titles, the underlines
    and the rows of that of the inner one, and fails at the same record and the same column. The
    listings succeed together, and then that of the outer type has the lines of the inner one, each
    further to the right, under the name of the group, or none if there are none. -/
theorem boxing_frames_reports (nested : Descriptor) (boxedName key name : String)
    (title defaultText : Option String) (options : ViewOptions) (named : name ≠ "")
    (unlisted : ¬ options.directive.Lists key) (ignore : options.formatters.IgnoreRecords) :
    let boxed := nested.boxed boxedName key name title defaultText
    let table := TableView.ofDescriptor nested options
    let table' := TableView.ofDescriptor boxed options
    let listing := DetailView.ofDescriptor nested options
    let listing' := DetailView.ofDescriptor boxed options
    ((∃ schema, Schema.build nested options.formatters = .ok schema) ↔
      ∃ schema, Schema.build boxed options.formatters = .ok schema) ∧
    (∀ e, Schema.build boxed options.formatters = .error e ↔
      ∃ inner, Schema.build nested options.formatters = .error inner ∧ e = inner.below key) ∧
    (∀ records records', List.Forall₂ (Record.Holds key) records records' →
      (∃ shown rows, shown <+: records ∧
        shown.map (TableView.row table.columns table.formatters) = rows.map .ok ∧
        (table.render ({} : Transcript) records).2.received =
          unlines (TableView.groupLines table.columns ++ TableView.bodyLines table.columns rows) ∧
        (table'.render ({} : Transcript) records').2.received =
          unlines (TableView.groupLines table'.columns ++ TableView.bodyLines table.columns rows)) ∧
      (table'.render ({} : Transcript) records').1.result =
        (table.render ({} : Transcript) records).1.result.mapError (.below key) ∧
      TableView.SameEnd (fun c c' => c'.leaf.selectorPath = key ++ "." ++ c.leaf.selectorPath) table
        table' records records' (table.render ({} : Transcript) records).1.result
        (table'.render ({} : Transcript) records').1.result) ∧
    (∀ r r', Record.Holds key r r' →
      ((listing.render ({} : Transcript) r).1.result = .ok () ↔
        (listing'.render ({} : Transcript) r').1.result = .ok ()) ∧
      ((listing.render ({} : Transcript) r).1.result = .ok () → ∃ lines,
        listing.lines r = .ok lines ∧
        (listing.render ({} : Transcript) r).2.received = DetailView.listingText lines ∧
        (listing'.render ({} : Transcript) r').2.received =
          unlines (if lines = [] then []
            else (name ++ ":") :: lines.map fun line => "  " ++ line.spelled))) := by
  intro boxed table table' listing listing'
  have errors (e : SchemaError) : Schema.build boxed options.formatters = .error e ↔
      ∃ inner, Schema.build nested options.formatters = .error inner ∧ e = inner.below key :=
    Schema.build_boxed_eq_error_iff
  cases built : Schema.build nested options.formatters with
  | error e =>
    have built' : Schema.build boxed options.formatters = .error (e.below key) :=
      (errors _).2 ⟨e, built, rfl⟩
    rw [built] at errors
    -- Without a schema nothing is rendered at all.
    simp only [table, table', listing, listing', TableView.ofDescriptor_error built,
      TableView.ofDescriptor_error built', DetailView.ofDescriptor_error built,
      DetailView.ofDescriptor_error built']
    refine ⟨?_, errors, fun _ _ _ =>
      ⟨⟨[], [], List.nil_prefix, rfl, rfl, rfl⟩, rfl, .schema _ _⟩, fun _ _ _ =>
      ⟨iff_of_false (fun ended => nomatch ended) (fun ended => nomatch ended),
        fun ended => nomatch ended⟩⟩
    rw [built']
    exact iff_of_false (fun ⟨_, ended⟩ => nomatch ended) (fun ⟨_, ended⟩ => nomatch ended)
  | ok schema =>
    obtain ⟨schema', built', label, address, roots⟩ :=
      @Schema.exists_build_boxed _ _ boxedName key name title defaultText _ built
    have faithful := faithful_of_boxed built built' address roots unlisted
    have fresh : table.error = none ∧ listing.error = none := by
      simp only [table, listing, TableView.ofDescriptor_ok built, DetailView.ofDescriptor_ok built,
        and_self]
    have fresh' : table'.error = none ∧ listing'.error = none := by
      simp only [table', listing', boxed, TableView.ofDescriptor_ok built',
        DetailView.ofDescriptor_ok built', and_self]
    rw [built] at errors
    refine ⟨iff_of_true ⟨schema, rfl⟩ ⟨schema', built'⟩, errors, fun records records' pairs => ?_,
      fun r r' holds => ?_⟩
    · have twins := twins_of_boxed built built' roots faithful ignore
      exact TableView.received_of_boxes twins fresh.1 fresh'.1 pairs
    · have lines := lines_of_boxed built built' roots faithful ignore named holds
      exact DetailView.received_of_framed fresh.2 fresh'.2 lines

namespace Sample

def usage : Descriptor where
  name := "Usage"
  fields := [
    .scalar { key := "time", title := some "TIME" },
    .scalar { key := "memory", title := some "MEM", format := some Formatter.byteSizeId }]

def usageRecord (memory : Value) : Record where
  field key := if key = "memory" then memory else .nil

def usageHolder (memory : Value) : Record where
  field key := if key = "usage" then .ref (.ofRecord (usageRecord memory)) else .nil

end Sample

/-- The usage of two jobs, by itself and in a boxed group, where the memory of the second one is
    refused. -/
theorem boxing_frames_reports_jobs :
    let boxed := Sample.usage.boxed "Job" "usage" "Usage" none none
    let table' := TableView.ofDescriptor boxed Sample.options
    let listing' := DetailView.ofDescriptor boxed Sample.options
    let outers := [Sample.usageHolder (.int 1536), Sample.usageHolder (.str "?")]
    (table'.render ({} : Transcript) outers).2.received = "Usage\nMEM\n---\n1.5 KiB\n" ∧
      (table'.render ({} : Transcript) outers).1.result =
        .error (.format "usage.memory" (.notANumber Formatter.byteSizeId .string)) ∧
      (listing'.render ({} : Transcript) (Sample.usageHolder (.int 1536))).2.received =
        "Usage:\n  MEM:\t1.5 KiB\n" := by
  intro boxed table' listing' outers
  have holds (memory : Value) :
      Record.Holds "usage" (Sample.usageRecord memory) (Sample.usageHolder memory) := rfl
  obtain ⟨-, -, tables, listings⟩ := boxing_frames_reports Sample.usage "Job" "usage" "Usage" none
    none Sample.options (by decide) (by decide) Registry.ignoreRecords_empty
  obtain ⟨-, failed, -⟩ := tables [Sample.usageRecord (.int 1536), Sample.usageRecord (.str "?")]
    outers (.cons (holds _) (.cons (holds _) .nil))
  obtain ⟨lines, made, -, listed⟩ := (listings _ _ (holds (.int 1536))).2 rfl
  cases made
  refine ⟨?_, failed, listed⟩
  decide +kernel

end StatusReport
