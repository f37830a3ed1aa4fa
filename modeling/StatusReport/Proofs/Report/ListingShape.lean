import StatusReport.Proofs.Places
import StatusReport.Proofs.Report.ListingRun
import StatusReport.Proofs.Report.ShownColumns

/-! # The shape of a listing

A listing is collected by a recursion that makes the lines of a boxed group before its header. Read
off the places of the schema it is simpler: each node has a line or none, and the lines stand in the
order of the places. A leaf has one if it is shown and has text, a boxed group if a leaf below it
has one, a flatten group never. What is below a node is one stretch of the places, so the lines from
below a boxed group are one stretch of the listing, and its header is right before them.

* `DetailView.lineAt`: the line of the node at a place.
* `DetailView.linesOfAll_eq`: the recursion makes these lines.
* `Frame`, `DetailView.frame_of_header`: a header and the lines from below its group.
* `DetailView.headers_frame_lines`: the shape of a listing that no formatter refuses.
-/

namespace StatusReport

/-- How many boxed groups there are among the nodes around. -/
def boxesAmong (around : List Node) : Nat := around.countP (·.box?.isSome)

def Place.depth (p : Place) : Nat := boxesAmong p.around

theorem boxesAmong_group (label : Label) (name : String) (flatten : Bool)
    (children around : List Node) :
    boxesAmong (.group label name flatten children :: around) =
      if flatten then boxesAmong around else boxesAmong around + 1 := by
  cases flatten <;> simp [boxesAmong, Node.box?]

namespace DetailView

/-! ## The line of a node -/

/-- A leaf is shown and has a text for a record, which is not empty. -/
def Fills (view : DetailView) (r : Record) (leaf : Label) (text : String) : Prop :=
  view.visibility.isShown leaf.id = true ∧ leafText leaf view.formatters r = .ok text ∧ text ≠ ""

def filledText? (view : DetailView) (r : Record) (leaf : Label) : Option String :=
  match leafText leaf view.formatters r with
  | .error _ => none
  | .ok text => if view.visibility.isShown leaf.id ∧ text ≠ "" then some text else none

/-- The line of the node at a place. -/
def lineAt (view : DetailView) (r : Record) (p : Place) : Option Line :=
  match p.node with
  | .leaf leaf => (view.filledText? r leaf).map (.entry p.depth leaf.title)
  | .group _ _ true _ => none
  | .group label name false children =>
    if (Node.leavesOf children).any fun leaf => (view.filledText? r leaf).isSome then
      some (.header p.depth (headerName label name))
    else none

def produced (view : DetailView) (r : Record) (places : List Place) : List (Place × Line) :=
  places.filterMap fun p => (view.lineAt r p).map (p, ·)

section Lines

variable {view : DetailView} {r : Record}

theorem filledText?_eq_some_iff {leaf : Label} {text : String} :
    view.filledText? r leaf = some text ↔ view.Fills r leaf text := by
  rw [filledText?, Fills]
  cases leafText leaf view.formatters r with
  | error e => simp
  | ok made =>
    simp only [Option.ite_none_right_eq_some, Option.some.injEq, Except.ok.injEq]
    constructor
    · rintro ⟨⟨shown, filled⟩, rfl⟩
      exact ⟨shown, rfl, filled⟩
    · rintro ⟨shown, rfl, filled⟩
      exact ⟨⟨shown, filled⟩, rfl⟩

theorem lineAt_leaf (leaf : Label) (around : List Node) :
    view.lineAt r ⟨.leaf leaf, around⟩ =
      (view.filledText? r leaf).map (.entry (boxesAmong around) leaf.title) := rfl

theorem lineAt_boxed_eq_some_iff {label : Label} {name : String} {children around : List Node}
    {line : Line} :
    view.lineAt r ⟨.group label name false children, around⟩ = some line ↔
      (∃ leaf ∈ Node.leavesOf children, ∃ text, view.Fills r leaf text) ∧
        line = .header (boxesAmong around) (headerName label name) := by
  simp only [lineAt, Place.depth, Option.ite_none_right_eq_some, List.any_eq_true,
    Option.isSome_iff_exists, filledText?_eq_some_iff, Option.some.injEq, eq_comm (a := line)]

theorem produced_append (a b : List Place) :
    view.produced r (a ++ b) = view.produced r a ++ view.produced r b :=
  List.filterMap_append

theorem produced_cons (p : Place) (rest : List Place) :
    view.produced r (p :: rest) =
      ((view.lineAt r p).map (p, ·)).toList ++ view.produced r rest := by
  rw [produced, List.filterMap_cons]
  cases view.lineAt r p <;> rfl

theorem mem_produced {places : List Place} {p : Place} {line : Line} :
    (p, line) ∈ view.produced r places ↔ p ∈ places ∧ view.lineAt r p = some line := by
  simp only [produced, List.mem_filterMap, Option.map_eq_some_iff, Prod.mk.injEq]
  constructor
  · rintro ⟨_, member, _, made, rfl, rfl⟩
    exact ⟨member, made⟩
  · rintro ⟨member, made⟩
    exact ⟨p, member, line, made, rfl, rfl⟩

/-- A node has one line at most, and the order is that of the places. -/
theorem map_fst_produced (places : List Place) :
    (view.produced r places).map (·.1) = places.filter fun p => (view.lineAt r p).isSome := by
  induction places with
  | nil => rfl
  | cons p rest ih =>
    rw [produced_cons, List.map_append, ih, List.filter_cons]
    cases view.lineAt r p <;> rfl

end Lines

/-! ## Stretches without a line, and first lines -/

section Stretches

variable {view : DetailView} {r : Record}

mutual

theorem produced_places_eq_nil_iff {around : List Node} {node : Node} :
    view.produced r (node.places around) = [] ↔
      ∀ leaf ∈ node.leaves, view.filledText? r leaf = none := by
  cases node with
  | leaf label =>
    rw [Node.places, Node.leaves, List.forall_mem_singleton, produced_cons, lineAt_leaf]
    cases view.filledText? r label <;> simp [produced]
  | group label name flatten children =>
    rw [Node.places, Node.leaves, produced_cons, List.append_eq_nil_iff,
      produced_placesAll_eq_nil_iff, and_iff_right_iff_imp]
    intro empty
    cases flatten with
    | true => rfl
    | false =>
      -- A header needs a filled leaf below it, and there is none.
      have none : view.lineAt r ⟨.group label name false children, around⟩ = none := by
        rw [Option.eq_none_iff_forall_ne_some]
        intro line made
        obtain ⟨⟨leaf, member, text, filled⟩, -⟩ := lineAt_boxed_eq_some_iff.1 made
        cases (empty leaf member).symm.trans (filledText?_eq_some_iff.2 filled)
      rw [none]
      rfl

theorem produced_placesAll_eq_nil_iff {around nodes : List Node} :
    view.produced r (Node.placesAll around nodes) = [] ↔
      ∀ leaf ∈ Node.leavesOf nodes, view.filledText? r leaf = none := by
  cases nodes with
  | nil => simp [Node.placesAll, Node.leavesOf, produced]
  | cons node rest =>
    rw [Node.placesAll, Node.leavesOf, produced_append, List.append_eq_nil_iff,
      List.forall_mem_append, produced_places_eq_nil_iff, produced_placesAll_eq_nil_iff]

end

/-- A boxed group has its header exactly if something below it has a line. -/
theorem lineAt_boxed {label : Label} {name : String} {children around : List Node} :
    view.lineAt r ⟨.group label name false children, around⟩ =
      if view.produced r (Place.below ⟨.group label name false children, around⟩) = [] then none
      else some (.header (boxesAmong around) (headerName label name)) := by
  by_cases empty : view.produced r (Place.below ⟨.group label name false children, around⟩) = []
  · rw [if_pos empty, Option.eq_none_iff_forall_ne_some]
    intro line made
    obtain ⟨⟨leaf, member, text, filled⟩, -⟩ := lineAt_boxed_eq_some_iff.1 made
    have unfilled := produced_placesAll_eq_nil_iff.1 empty leaf member
    cases unfilled.symm.trans (filledText?_eq_some_iff.2 filled)
  · rw [if_neg empty, lineAt_boxed_eq_some_iff]
    refine ⟨?_, rfl⟩
    by_contra unfilled
    refine empty (produced_placesAll_eq_nil_iff.2 fun leaf member => ?_)
    rw [Option.eq_none_iff_forall_ne_some]
    exact fun text filled => unfilled ⟨leaf, member, text, filledText?_eq_some_iff.1 filled⟩

theorem isGroup_of_header {box : Place} {depth : Nat} {name : String}
    (made : view.lineAt r box = some (.header depth name)) : box.node.isGroup = true := by
  obtain ⟨node, around⟩ := box
  cases node with
  | leaf label =>
    obtain ⟨text, -, other⟩ := Option.map_eq_some_iff.1 made
    cases other
  | group label name flatten children => rfl

theorem below_header {box : Place} {header : Line} (made : view.lineAt r box = some header)
    (grouped : box.node.isGroup = true) :
    view.produced r box.below ≠ [] ∧ boxesAmong box.lineage = box.depth + 1 := by
  obtain ⟨node, around⟩ := box
  cases node with
  | leaf label => cases grouped
  | group label name flatten children =>
    cases flatten with
    | true => cases made
    | false =>
      refine ⟨fun empty => ?_, boxesAmong_group label name false children around⟩
      rw [lineAt_boxed, if_pos empty] at made
      cases made

theorem depth_of_lineAt {p : Place} {line : Line} (made : view.lineAt r p = some line) :
    line.depth = p.depth := by
  obtain ⟨node, around⟩ := p
  cases node with
  | leaf label =>
    obtain ⟨text, -, rfl⟩ := Option.map_eq_some_iff.1 made
    rfl
  | group label name flatten children =>
    cases flatten with
    | true => cases made
    | false =>
      obtain ⟨-, rfl⟩ := lineAt_boxed_eq_some_iff.1 made
      rfl

mutual

theorem depth_of_head_places (around : List Node) (node : Node) :
    ∀ entry ∈ (view.produced r (node.places around)).head?, entry.1.depth = boxesAmong around := by
  cases node with
  | leaf label =>
    rw [Node.places, produced_cons]
    cases view.lineAt r ⟨.leaf label, around⟩ <;> simp [produced, Place.depth]
  | group label name flatten children =>
    rw [Node.places, produced_cons]
    cases flatten with
    | true => exact depth_of_head_placesAll (.group label name true children :: around) children
    | false =>
      -- Either the header comes first, or nothing comes at all.
      rw [lineAt_boxed]
      split
      next empty =>
        rw [Option.map_none, Option.toList_none, List.nil_append,
          show view.produced r (Node.placesAll (.group label name false children :: around) children)
            = [] from empty]
        exact nofun
      next =>
        rintro entry ⟨⟩
        rfl

theorem depth_of_head_placesAll (around nodes : List Node) :
    ∀ entry ∈ (view.produced r (Node.placesAll around nodes)).head?,
      entry.1.depth = boxesAmong around := by
  cases nodes with
  | nil => exact nofun
  | cons node rest =>
    have first := depth_of_head_places around node
    rw [Node.placesAll, produced_append]
    cases made : view.produced r (node.places around) with
    | nil => exact depth_of_head_placesAll around rest
    | cons entry more =>
      rw [made] at first
      exact first

end

end Stretches

/-! ## The walk -/

section Walk

variable {view : DetailView} {r : Record}

theorem lines_of_leaf {depth : Nat} {leaf : Label} {lines : List Line}
    (made : linesOf view.visibility view.formatters r depth (.leaf leaf) = .ok lines) :
    lines = ((view.filledText? r leaf).map (.entry depth leaf.title)).toList := by
  rw [linesOf] at made
  unfold filledText?
  cases shown : view.visibility.isShown leaf.id with
  | false =>
    simp only [shown, Bool.false_eq_true, if_false, Except.ok.injEq] at made
    cases leafText leaf view.formatters r <;> simp [← made]
  | true =>
    cases texted : leafText leaf view.formatters r with
    | error e => simp [shown, texted] at made
    | ok text =>
      simp only [shown, texted, if_true, Except.ok.injEq] at made
      by_cases empty : text = "" <;> simp [← made, empty]

theorem lines_of_boxed {depth : Nat} {label : Label} {name : String} {children : List Node}
    {lines : List Line}
    (made : linesOf view.visibility view.formatters r depth (.group label name false children) =
      .ok lines) :
    ∃ inside, linesOfAll view.visibility view.formatters r (depth + 1) children = .ok inside ∧
      lines = if inside = [] then [] else .header depth (headerName label name) :: inside := by
  rw [linesOf, if_neg Bool.false_ne_true] at made
  cases inside : linesOfAll view.visibility view.formatters r (depth + 1) children with
  | error e =>
    rw [inside] at made
    cases made
  | ok inner =>
    refine ⟨inner, rfl, ?_⟩
    rw [inside] at made
    cases inner <;> cases made <;> rfl

mutual

theorem linesOf_eq (around : List Node) {node : Node} {lines : List Line}
    (made : linesOf view.visibility view.formatters r (boxesAmong around) node = .ok lines) :
    lines = (view.produced r (node.places around)).map (·.2) := by
  cases node with
  | leaf label =>
    rw [lines_of_leaf made, Node.places, produced_cons, lineAt_leaf]
    cases view.filledText? r label <;> rfl
  | group label name flatten children =>
    have depth := boxesAmong_group label name flatten children around
    rw [Node.places, produced_cons, List.map_append]
    cases flatten with
    | true =>
      rw [linesOf, if_pos rfl] at made
      exact linesOfAll_eq (.group label name true children :: around) (by rwa [depth])
    | false =>
      obtain ⟨inside, madeInside, rfl⟩ := lines_of_boxed made
      have stretch : inside = (view.produced r
          (Place.below ⟨.group label name false children, around⟩)).map (·.2) :=
        linesOfAll_eq (.group label name false children :: around) (by rwa [depth])
      -- The header is made after the lines below it, and stands before them.
      rw [lineAt_boxed]
      by_cases empty : view.produced r (Place.below ⟨.group label name false children, around⟩) = []
      · rw [if_pos empty, if_pos (by rw [stretch, empty, List.map_nil])]
        exact (congrArg (List.map (·.2)) empty).symm
      · rw [if_neg empty, if_neg (by rwa [stretch, List.map_eq_nil_iff]), stretch]
        rfl

/-- The walk makes the lines of the nodes on its way, in order. -/
theorem linesOfAll_eq (around : List Node) {nodes : List Node} {lines : List Line}
    (made : linesOfAll view.visibility view.formatters r (boxesAmong around) nodes = .ok lines) :
    lines = (view.produced r (Node.placesAll around nodes)).map (·.2) := by
  cases nodes with
  | nil =>
    cases made
    rfl
  | cons node rest =>
    rw [linesOfAll_cons] at made
    obtain ⟨a, b, first, others, rfl⟩ := andThen_eq_ok_iff.1 made
    rw [Node.placesAll, produced_append, List.map_append, linesOf_eq around first,
      linesOfAll_eq around others]

end

end Walk

/-! ## Headers and what is below them -/

/-- A header in a listing, and right behind it all lines from below its group, at least one. -/
structure Frame (listing : List (Place × Line)) (box : Place) (header : Line) where
  before : List (Place × Line)
  inside : List (Place × Line)
  after : List (Place × Line)
  split : listing = before ++ (box, header) :: (inside ++ after)
  filled : inside ≠ []
  deeper : ∀ entry ∈ inside.head?, entry.2.depth = header.depth + 1
  inside_below : ∀ entry ∈ inside, entry.1.Below box
  outside_not_below : ∀ entry ∈ before ++ after, ¬ entry.1.Below box

section Frames

variable {descriptor : Descriptor} {formatters : Registry} {schema : Schema}
  (built : Schema.build descriptor formatters = .ok schema) {view : DetailView} {r : Record}
include built

theorem produced_nodup : ((view.produced r schema.places).map (·.1.node.label.id)).Nodup := by
  have shorter := (List.filter_sublist (p := fun p => (view.lineAt r p).isSome)
    (l := schema.places)).map (·.node.label.id)
  rw [← map_fst_produced, List.map_map] at shorter
  exact (Schema.places_nodup built).sublist shorter

theorem frame_of_header {box : Place} {header : Line}
    (member : (box, header) ∈ view.produced r schema.places) (grouped : box.node.isGroup = true) :
    Nonempty (Frame (view.produced r schema.places) box header) := by
  obtain ⟨here, made⟩ := mem_produced.1 member
  obtain ⟨before, after, split, below, outside⟩ := Schema.places_split built here
  obtain ⟨filled, inner⟩ := below_header made grouped
  -- The places below a node are one stretch, so the lines made of them are one too.
  refine ⟨view.produced r before, view.produced r box.below, view.produced r after, ?_, filled,
    ?_, ?_, ?_⟩
  · rw [split, produced_append, produced_cons, made, produced_append]
    rfl
  · rintro ⟨q, line⟩ first
    have made' := (mem_produced.1 (List.mem_of_mem_head? first)).2
    rw [depth_of_lineAt made', depth_of_lineAt made, ← inner]
    exact depth_of_head_placesAll box.lineage box.node.children _ first
  · rintro ⟨q, line⟩ inside
    exact below q (mem_produced.1 inside).1
  · rintro ⟨q, line⟩ other
    rw [← produced_append] at other
    exact outside q (mem_produced.1 other).1

theorem header_of_below {box : Place} (here : box ∈ schema.places)
    (boxed : box.node.box?.isSome = true) {q : Place} {line : Line}
    (member : (q, line) ∈ view.produced r schema.places) (below : q.Below box) :
    ∃ header, (box, header) ∈ view.produced r schema.places := by
  obtain ⟨place, made⟩ := mem_produced.1 member
  have inside : (q, line) ∈ view.produced r box.below :=
    mem_produced.2 ⟨(Schema.mem_below_iff built here place).2 below, made⟩
  obtain ⟨node, around⟩ := box
  match node with
  | .group label name false children =>
    have filled := List.ne_nil_of_mem inside
    exact ⟨.header (boxesAmong around) (headerName label name),
      mem_produced.2 ⟨here, by rw [lineAt_boxed, if_neg filled]⟩⟩

theorem next_of_header {front back : List Line} {depth : Nat} {name : String}
    (split : (view.produced r schema.places).map (·.2) = front ++ .header depth name :: back) :
    ∃ next rest, back = next :: rest ∧ next.depth = depth + 1 := by
  obtain ⟨before, _, whole, rfl, later⟩ := List.map_eq_append_iff.1 split
  obtain ⟨⟨box, header⟩, after, rfl, rfl, rfl⟩ := List.map_eq_cons_iff.1 later
  have member : (box, Line.header depth name) ∈ view.produced r schema.places := by
    rw [whole]
    exact List.mem_append_right _ List.mem_cons_self
  have grouped := isGroup_of_header (mem_produced.1 member).2
  obtain ⟨frame⟩ := frame_of_header built member grouped
  -- The header is in the listing once, so what is behind it is behind it in its frame.
  have once : (view.produced r schema.places).Nodup := List.Nodup.of_map _ (produced_nodup built)
  rw [whole, List.nodup_middle, List.nodup_cons, List.mem_append, not_or] at once
  obtain ⟨-, -, behind⟩ :=
    (List.append_cons_inj_of_notMem once.1.1 once.1.2).1 (whole.symm.trans frame.split)
  obtain ⟨entry, more, inside⟩ := List.exists_cons_of_ne_nil frame.filled
  have deeper := frame.deeper entry (by rw [inside]; rfl)
  rw [behind, inside]
  exact ⟨entry.2, (more ++ frame.after).map (·.2), rfl, deeper⟩

end Frames

/-! ## Listings -/

theorem written_of_showsAll {descriptor : Descriptor} {options : ViewOptions} {schema : Schema}
    {r : Record} (built : Schema.build descriptor options.formatters = .ok schema)
    (shown : (ofDescriptor descriptor options).ShowsAll r) :
    let view := ofDescriptor descriptor options
    let run := view.render ({} : Transcript) r
    view.lines r = .ok ((view.produced r schema.places).map (·.2)) ∧
      run.2.received = listingText ((view.produced r schema.places).map (·.2)) ∧
      run.1.result = .ok () := by
  intro view run
  have fresh : view.error = none := by simp only [view, ofDescriptor_ok built]
  have roots : view.roots = schema.roots := by simp only [view, ofDescriptor_ok built]
  have ended : run.1.result = .ok () :=
    (Report.result_render_keeps view Transcript.keeps fresh "" r).trans
      (ending_script_of_shows (allKnown_of_build built) (showsAll_iff.1 shown))
  obtain ⟨lines, made⟩ := lines_of_ended fresh ended
  have walk : linesOfAll view.visibility view.formatters r (boxesAmong []) schema.roots = .ok lines :=
    roots ▸ made
  have order : lines = (view.produced r schema.places).map (·.2) := linesOfAll_eq [] walk
  exact ⟨by rw [made, order], order ▸ received_of_lines fresh made, ended⟩

/-- If no formatter refuses the value of a visible leaf, a listing has one line for each leaf that is
    shown and has text, and for each boxed group with such a leaf below it, however deep; no other
    node has a line, and none has two. The header of a boxed group stands right before the lines from
    below it, which follow one another without a gap, and there is none without the header. A line is
    indented by two blanks for each boxed group around its node. So a header is never the last line,
    and the line behind it is one box further in. -/
theorem headers_frame_lines (descriptor : Descriptor) (options : ViewOptions) (r : Record) :
    let view := ofDescriptor descriptor options
    let run := view.render ({} : Transcript) r
    (∀ e, Schema.build descriptor options.formatters = .error e → run.2.received = "") ∧
    (∀ schema, Schema.build descriptor options.formatters = .ok schema → view.ShowsAll r →
      let listing := view.produced r schema.places
      run.1.result = .ok () ∧
      view.lines r = .ok (listing.map (·.2)) ∧
      run.2.received = unlines (listing.map (·.2.text)) ∧
      (listing.map (·.1.node.label.id)).Nodup ∧
      (∀ leaf around line, (⟨.leaf leaf, around⟩, line) ∈ listing ↔
        Lineage schema.roots (.leaf leaf :: around) ∧
          ∃ text, view.Fills r leaf text ∧ line = .entry (boxesAmong around) leaf.title text) ∧
      (∀ label name children around line,
        (⟨.group label name true children, around⟩, line) ∉ listing) ∧
      (∀ label name children around line,
        (⟨.group label name false children, around⟩, line) ∈ listing ↔
          Lineage schema.roots (.group label name false children :: around) ∧
            (∃ leaf ∈ Node.leavesOf children, ∃ text, view.Fills r leaf text) ∧
            line = .header (boxesAmong around) (headerName label name)) ∧
      (∀ box header, (box, header) ∈ listing → box.node.isGroup = true →
        Nonempty (Frame listing box header)) ∧
      (∀ box, Lineage schema.roots box.lineage → box.node.box?.isSome = true →
        ∀ entry ∈ listing, entry.1.Below box → ∃ header, (box, header) ∈ listing) ∧
      (∀ entry ∈ listing,
        entry.2.text.toList = List.replicate (2 * entry.1.depth) ' ' ++ entry.2.words.toList) ∧
      (∀ front depth name back, listing.map (·.2) = front ++ .header depth name :: back →
        ∃ next rest, back = next :: rest ∧ next.depth = depth + 1)) := by
  intro view run
  refine ⟨fun e failed => ?_, fun schema built shown => ?_⟩
  · simp only [run, view, ofDescriptor_error failed]
    rfl
  · obtain ⟨made, written, ended⟩ := written_of_showsAll built shown
    have texts := unlines_map_text ((view.produced r schema.places).map (·.2))
    rw [List.map_map] at texts
    refine ⟨ended, made, written.trans texts.symm, produced_nodup built, ?_, ?_, ?_, ?_, ?_, ?_, ?_⟩
    · intro leaf around line
      rw [mem_produced, Schema.mem_places_iff, lineAt_leaf]
      simp only [Option.map_eq_some_iff, filledText?_eq_some_iff, eq_comm (a := line)]
      rfl
    · intro label name children around line member
      cases (mem_produced.1 member).2
    · intro label name children around line
      rw [mem_produced, Schema.mem_places_iff, lineAt_boxed_eq_some_iff]
      rfl
    · exact fun box header => frame_of_header built
    · intro box lineage boxed entry member below
      exact header_of_below built (Schema.mem_places_iff.2 lineage) boxed member below
    · intro entry member
      rw [Line.text_eq, Line.spelled, String.toList_append, String.toList_ofList,
        depth_of_lineAt (mem_produced.1 member).2]
    · exact fun front depth name back => next_of_header built

theorem showsAll_machine : (ofDescriptor Sample.machines {}).ShowsAll Sample.machine := by
  have nameRow : TableView.row (columnsOf (ofDescriptor Sample.machines {}).visibility none
    (.leaf (Schema.labelOf [] [] { key := "name" } 1))) {} Sample.machine = .ok ["a"] := by rfl
  have usageRow : TableView.row (columnsOf (ofDescriptor Sample.machines {}).visibility none
    Sample.loadGroup) {} Sample.machine = .ok ["1", "2", "3"] := by rfl
  exact showsAll_iff.2 (List.forall_mem_cons.2 ⟨TableView.shows_of_row nameRow,
    List.forall_mem_singleton.2 (TableView.shows_of_row usageRow)⟩)

/-- The limits of a machine are inside two boxed groups, and its usage goes on behind them. -/
theorem headers_frame_lines_machines :
    let view := ofDescriptor Sample.machines {}
    let listing := view.produced Sample.machine Sample.machineSchema.places
    let box : Place := ⟨Sample.limitsGroup, [Sample.capsGroup, Sample.loadGroup]⟩
    view.ShowsAll Sample.machine ∧
      (view.render ({} : Transcript) Sample.machine).2.received =
        "name:\ta\nUsage:\n  cpu:\t1\n  Limits:\n    max:\t2\n  mem:\t3\n" ∧
      Nonempty (Frame listing box (.header 1 "Limits")) := by
  intro view listing box
  have shown : view.ShowsAll Sample.machine := showsAll_machine
  obtain ⟨-, -, written, -, -, -, header, frame, -⟩ :=
    (headers_frame_lines Sample.machines {} Sample.machine).2 _ Sample.build_machines shown
  have lineage : Lineage Sample.machineSchema.roots box.lineage :=
    .inner (.inner (.root (List.mem_cons_of_mem _ List.mem_cons_self))
      (List.mem_cons_of_mem _ List.mem_cons_self)) List.mem_cons_self
  have member : (box, Line.header 1 "Limits") ∈ listing :=
    (header _ _ _ _ _).2 ⟨lineage, ⟨Sample.maxLeaf, List.mem_cons_self, "2",
      ⟨rfl, rfl, by decide⟩⟩, rfl⟩
  exact ⟨shown, written.trans (by rfl), frame box _ member rfl⟩

end DetailView

end StatusReport
