import StatusReport.Proofs.Places
import StatusReport.Proofs.Report.Grid

/-! # The spans of groups

The labels above the columns of a table are made in one pass, which knows of the columns before it
only the group of the last one and whether there was a label. So a label stands where the group
changes, at the first column of a run. Columns are leaves in the order of their places, and the
places below a boxed group are one stretch. Between two columns of a group there are only columns
from below it, so its run ends early only where a boxed group inside it has columns.

* `RunStarts`: a run of columns of one group starts.
* `getElem?_groupCells`: the cell above a column.
* `columnsOfAll_eq`: the columns, place by place.
* `group_within`: the columns between two of a group.
* `group_row_labels_spans`: the group row of a table.
-/

namespace StatusReport

/-! ## Runs -/

def groupAt (columns : List Column) (i : Nat) : Option ColumnGroup := columns[i]?.bind (·.group)

/-- A run of columns of one group starts at an index: the column there has the group, and the one
    before it, if there is one, has not. -/
structure RunStarts (columns : List Column) (i : Nat) (g : ColumnGroup) : Prop where
  here : groupAt columns i = some g
  before : ∀ j, i = j + 1 → groupAt columns j ≠ some g

theorem exists_runStarts {columns : List Column} {i : Nat} {g : ColumnGroup}
    (here : groupAt columns i = some g) : ∃ j ≤ i, RunStarts columns j g := by
  induction i with
  | zero => exact ⟨0, Nat.le_refl 0, here, fun j zero => by omega⟩
  | succ i ih =>
    by_cases same : groupAt columns i = some g
    · obtain ⟨j, le, starts⟩ := ih same
      exact ⟨j, by omega, starts⟩
    · refine ⟨i + 1, Nat.le_refl _, here, fun j next => ?_⟩
      rwa [← Nat.succ.inj next]

/-! ## The group row -/

/-- The cell above a column, given the number of the group before it, and whether a label would be
    the first. -/
def groupCell (previous : Option Nat) (first : Bool) (column : Column) : String :=
  match column.group with
  | none => ""
  | some g => if previous = some g.id then "" else groupLabel first g

/-- The number of the group of the column before an index, given that of the column before all. -/
def idBefore (previous : Option Nat) (columns : List Column) : Nat → Option Nat
  | 0 => previous
  | i + 1 => (groupAt columns i).map (·.id)

/-- One step of `groupCells`. While the next label would be the first, no column before has a
    group. -/
theorem groupCells_cons {previous : Option Nat} {first : Bool}
    (start : first = true → previous = none) (column : Column) (rest : List Column) :
    groupCells previous first (column :: rest) =
      groupCell previous first column ::
        groupCells (column.group.map (·.id)) (first && column.group.isNone) rest := by
  rw [groupCells, groupCell]
  cases column.group with
  | none => simp
  | some g =>
    by_cases same : previous = some g.id
    · have labelled : first = false := by
        cases first with
        | false => rfl
        | true => cases same.symm.trans (start rfl)
      simp [same, labelled]
    · simp [same]

theorem getElem?_groupCells {previous : Option Nat} {first : Bool}
    (start : first = true → previous = none) (columns : List Column) (i : Nat) :
    (groupCells previous first columns)[i]? =
      columns[i]?.map (groupCell (idBefore previous columns i)
        (first && (columns.take i).all (·.group.isNone))) := by
  induction columns generalizing previous first i with
  | nil => rfl
  | cons column rest ih =>
    rw [groupCells_cons start]
    cases i with
    | zero => simp [idBefore]
    | succ i =>
      have next : (first && column.group.isNone) = true → column.group.map (·.id) = none := by
        cases column.group <;> simp
      have earlier : idBefore previous (column :: rest) (i + 1) =
          idBefore (column.group.map (·.id)) rest i := by
        cases i <;> rfl
      rw [List.getElem?_cons_succ, List.getElem?_cons_succ, ih next, earlier, List.take_succ_cons,
        List.all_cons, Bool.and_assoc]

section Labels

variable {columns : List Column} (byId : GroupsById columns) {i : Nat}
include byId

theorem id_of_groupAt {j : Nat} {g : ColumnGroup} (here : groupAt columns i = some g) :
    (groupAt columns j).map (·.id) = some g.id ↔ groupAt columns j = some g := by
  constructor
  · intro same
    obtain ⟨g', there, id⟩ := Option.map_eq_some_iff.1 same
    obtain ⟨column, at_i, grouped⟩ := Option.bind_eq_some_iff.1 here
    obtain ⟨column', at_j, grouped'⟩ := Option.bind_eq_some_iff.1 there
    rw [there, byId column' (List.mem_of_getElem? at_j) column (List.mem_of_getElem? at_i) g' grouped'
      g grouped id]
  · intro same
    rw [same, Option.map_some]

theorem label_of_runStarts {g : ColumnGroup} (starts : RunStarts columns i g) :
    (groupCells none true columns)[i]? =
      some (groupLabel ((columns.take i).all (·.group.isNone)) g) := by
  obtain ⟨column, at_i, grouped⟩ := Option.bind_eq_some_iff.1 starts.here
  have changed : idBefore none columns i ≠ some g.id := by
    cases i with
    | zero => exact nofun
    | succ j => exact fun same => starts.before j rfl ((id_of_groupAt byId starts.here).1 same)
  rw [getElem?_groupCells (fun _ => rfl), at_i, Option.map_some, groupCell, grouped]
  simp [changed]

omit byId in
theorem all_isNone_take :
    (columns.take i).all (·.group.isNone) = true ↔ ∀ j < i, ∀ g, ¬ RunStarts columns j g := by
  rw [List.all_eq_true]
  constructor
  · intro ungrouped j lt g starts
    obtain ⟨column, at_j, grouped⟩ := Option.bind_eq_some_iff.1 starts.here
    rw [← List.getElem?_take_of_lt lt] at at_j
    have none := ungrouped column (List.mem_of_getElem? at_j)
    rw [grouped] at none
    cases none
  · intro unstarted column member
    obtain ⟨j, at_j⟩ := List.mem_iff_getElem?.1 member
    rw [List.getElem?_take, Option.ite_none_right_eq_some] at at_j
    obtain ⟨lt, at_j⟩ := at_j
    cases grouped : column.group with
    | none => rfl
    | some g =>
      -- Its run starts at or before it, so within the first columns too.
      have here : groupAt columns j = some g := by rw [groupAt, at_j, Option.bind_some, grouped]
      obtain ⟨k, le, starts⟩ := exists_runStarts here
      exact absurd starts (unstarted k (by omega) g)

theorem blank_of_not_runStarts (inside : i < columns.length)
    (within : ∀ g, ¬ RunStarts columns i g) : (groupCells none true columns)[i]? = some "" := by
  have at_i := List.getElem?_eq_getElem inside
  rw [getElem?_groupCells (fun _ => rfl), at_i, Option.map_some, groupCell]
  cases grouped : columns[i].group with
  | none => rfl
  | some g =>
    have here : groupAt columns i = some g := by rw [groupAt, at_i, Option.bind_some, grouped]
    have same : idBefore none columns i = some g.id := by
      by_contra changed
      refine within g ⟨here, fun j next same => changed ?_⟩
      subst next
      exact (id_of_groupAt byId here).2 same
    exact congrArg some (if_pos same)

end Labels

/-! ## Columns in their places -/

def columnAt (visibility : Visibility) (p : Place) : Option Column :=
  match p.node with
  | .leaf label => if visibility.isShown label.id then some ⟨label, nearestBox? p.around⟩ else none
  | .group .. => none

theorem columnAt_leaf (visibility : Visibility) (label : Label) (around : List Node) :
    columnAt visibility ⟨.leaf label, around⟩ =
      if visibility.isShown label.id then some ⟨label, nearestBox? around⟩ else none := rfl

theorem columnAt_group (visibility : Visibility) (label : Label) (name : String) (flatten : Bool)
    (children around : List Node) :
    columnAt visibility ⟨.group label name flatten children, around⟩ = none := rfl

mutual

theorem columnsOf_eq (visibility : Visibility) (around : List Node) (node : Node) :
    columnsOf visibility (nearestBox? around) node =
      (node.places around).filterMap (columnAt visibility) := by
  cases node with
  | leaf label =>
    rw [columnsOf, Node.places, List.filterMap_cons, columnAt_leaf]
    cases visibility.isShown label.id <;> rfl
  | group label name flatten children =>
    rw [columnsOf, Node.places, List.filterMap_cons, columnAt_group,
      ← nearestBox?_group label name flatten children]
    exact columnsOfAll_eq visibility (.group label name flatten children :: around) children

/-- The walk of `columnsOfAll` makes one column of each shown leaf. -/
theorem columnsOfAll_eq (visibility : Visibility) (around nodes : List Node) :
    columnsOfAll visibility (nearestBox? around) nodes =
      (Node.placesAll around nodes).filterMap (columnAt visibility) := by
  cases nodes with
  | nil => rfl
  | cons node rest =>
    rw [columnsOfAll, Node.placesAll, List.filterMap_append, columnsOf_eq, columnsOfAll_eq]

end

theorem columns_eq (schema : Schema) (visibility : Visibility) :
    columns schema visibility = schema.places.filterMap (columnAt visibility) :=
  columnsOfAll_eq visibility [] schema.roots

theorem columnAt_eq_some {visibility : Visibility} {p : Place} {column : Column}
    (made : columnAt visibility p = some column) :
    p.node = .leaf column.leaf ∧ column.group = nearestBox? p.around := by
  obtain ⟨node, around⟩ := p
  cases node with
  | leaf label =>
    obtain ⟨-, same⟩ := Option.ite_none_right_eq_some.1 made
    cases same
    exact ⟨rfl, rfl⟩
  | group label name flatten children => cases made

theorem columnAt_of_box {p : Place} {g : ColumnGroup} (boxed : p.node.box? = some g)
    (visibility : Visibility) : columnAt visibility p = none := by
  obtain ⟨node, around⟩ := p
  cases node with
  | leaf label => cases boxed
  | group label name flatten children => rfl

/-! ## Below a boxed group -/

/-- A stretch of a list that has all members of a kind has everything between two of them. -/
theorem exists_mem_between {α : Type _} {front middle back : List α} {p : α → Prop}
    (outside : ∀ a ∈ front ++ back, ¬ p a) {i k j : Nat} {a b : α}
    (at_i : (front ++ (middle ++ back))[i]? = some a) (first : p a)
    (at_j : (front ++ (middle ++ back))[j]? = some b) (last : p b) (le : i ≤ k) (le' : k ≤ j) :
    ∃ c ∈ middle, (front ++ (middle ++ back))[k]? = some c := by
  have behind : front.length ≤ i := by
    by_contra ahead
    rw [List.getElem?_append_left (by omega)] at at_i
    exact outside a (List.mem_append_left _ (List.mem_of_getElem? at_i)) first
  have ahead : j < front.length + middle.length := by
    by_contra behind
    rw [List.getElem?_append_right (by omega), List.getElem?_append_right (by omega)] at at_j
    exact outside b (List.mem_append_right _ (List.mem_of_getElem? at_j)) last
  rw [List.getElem?_append_right (by omega), List.getElem?_append_left (by omega),
    List.getElem?_eq_getElem (by omega)]
  exact ⟨_, List.getElem_mem _, rfl⟩

section Boxes

variable {descriptor : Descriptor} {formatters : Registry} {schema : Schema}
  (built : Schema.build descriptor formatters = .ok schema)
include built

theorem box_unique {p q : Place} (hp : p ∈ schema.places) (hq : q ∈ schema.places)
    {g : ColumnGroup} (boxed : p.node.box? = some g) (boxed' : q.node.box? = some g) : p = q := by
  apply List.inj_on_of_nodup_map (Schema.places_nodup built) hp hq
  rw [Node.id_of_box? boxed, Node.id_of_box? boxed']

theorem below_of_nearestBox? {box q : Place} {g : ColumnGroup} (here : box ∈ schema.places)
    (boxed : box.node.box? = some g) (hq : q ∈ schema.places)
    (nearest : nearestBox? q.around = some g) : q.Below box := by
  obtain ⟨nearer, node, further, split, boxed', -⟩ := List.findSome?_eq_some_iff.1 nearest
  have place := Schema.place_of_around hq split
  rw [box_unique built here place boxed boxed', Place.Below, split]
  exact List.mem_append_right _ List.mem_cons_self

/-- The nearest box around a node below a boxed group is that group or one inside it. -/
theorem nearestBox?_of_below {box q : Place} {g : ColumnGroup} (here : box ∈ schema.places)
    (boxed : box.node.box? = some g) (hq : q ∈ schema.places) (below : q.Below box) :
    ∃ inner ∈ schema.places, inner.node.box?.isSome = true ∧
      nearestBox? q.around = inner.node.box? ∧ (inner = box ∨ inner.Below box) := by
  have found : (nearestBox? q.around).isSome = true :=
    List.findSome?_isSome_iff.2 ⟨box.node, below, by rw [boxed]; rfl⟩
  obtain ⟨g', nearest⟩ := Option.isSome_iff_exists.1 found
  obtain ⟨nearer, node, further, split, boxed', unboxed⟩ := List.findSome?_eq_some_iff.1 nearest
  have place := Schema.place_of_around hq split
  refine ⟨⟨node, further⟩, place, by rw [boxed']; rfl, nearest.trans boxed'.symm, ?_⟩
  rw [Place.Below, split, List.mem_append, List.mem_cons] at below
  obtain near | same | far := below
  · cases (unboxed _ near).symm.trans boxed
  · exact .inl (Schema.place_unique built place here same.symm)
  · exact .inr far

/-- Between two columns of a group there are only columns of the group and of boxed groups in it. -/
theorem group_within {box : Place} {g : ColumnGroup} (here : box ∈ schema.places)
    (boxed : box.node.box? = some g) {visibility : Visibility} {i k j : Nat}
    (first : groupAt (columns schema visibility) i = some g)
    (last : groupAt (columns schema visibility) j = some g) (le : i ≤ k) (le' : k ≤ j) :
    ∃ inner ∈ schema.places, inner.node.box?.isSome = true ∧
      groupAt (columns schema visibility) k = inner.node.box? ∧ (inner = box ∨ inner.Below box) := by
  obtain ⟨before, after, split, below, outside⟩ := Schema.places_split built here
  have stretches := columns_eq schema visibility
  rw [split, List.filterMap_append, List.filterMap_cons_none (columnAt_of_box boxed visibility),
    List.filterMap_append] at stretches
  have places : ∀ q ∈ before ++ (box.below ++ after), q ∈ schema.places := by
    rw [split]
    exact ((List.sublist_cons_self _ _).append_left before).subset
  -- Places are those before the box, those below it and those after it, and so are columns. Only
  -- the ones below can have the group, so the stretch between two of them is all below.
  have apart : ∀ column ∈ before.filterMap (columnAt visibility) ++
      after.filterMap (columnAt visibility), ¬ column.group = some g := by
    intro column member grouped
    rw [← List.filterMap_append] at member
    obtain ⟨q, other, made⟩ := List.mem_filterMap.1 member
    have hq : q ∈ schema.places := places q (by simp only [List.mem_append] at other ⊢; tauto)
    rw [(columnAt_eq_some made).2] at grouped
    exact outside q other (below_of_nearestBox? built here boxed hq grouped)
  obtain ⟨a, at_i, grouped⟩ := Option.bind_eq_some_iff.1 first
  obtain ⟨b, at_j, grouped'⟩ := Option.bind_eq_some_iff.1 last
  rw [stretches] at at_i at_j ⊢
  obtain ⟨c, member, at_k⟩ := exists_mem_between apart at_i grouped at_j grouped' le le'
  obtain ⟨q, inside, made⟩ := List.mem_filterMap.1 member
  have hq : q ∈ schema.places :=
    places q (List.mem_append_right _ (List.mem_append_left _ inside))
  rw [groupAt, at_k, Option.bind_some, (columnAt_eq_some made).2]
  exact nearestBox?_of_below built here boxed hq (below q inside)

end Boxes

/-! ## The header of a table -/

namespace TableView

theorem groupsById_ofDescriptor (descriptor : Descriptor) (options : ViewOptions) :
    GroupsById (ofDescriptor descriptor options).columns := by
  cases built : Schema.build descriptor options.formatters with
  | error e =>
    rw [ofDescriptor_error built]
    exact fun _ none => nomatch none
  | ok schema =>
    rw [ofDescriptor_ok built]
    exact groupsById_columns built _

theorem error_of_columns_ne_nil {descriptor : Descriptor} {options : ViewOptions}
    (filled : (ofDescriptor descriptor options).columns ≠ []) :
    (ofDescriptor descriptor options).error = none := by
  cases built : Schema.build descriptor options.formatters with
  | error e =>
    rw [ofDescriptor_error built] at filled
    exact absurd rfl filled
  | ok schema => rw [ofDescriptor_ok built]

/-- Whatever becomes of the records, the header comes first. -/
theorem received_headed {view : TableView} (fresh : view.error = none) (filled : view.columns ≠ [])
    (records : List Record) :
    ∃ body, (view.render ({} : Transcript) records).2.received =
      unlines ((headerCells view.columns).map (fun cells => "\t".intercalate cells) ++ body) := by
  have headed : view.script records = headerScript view.columns ++
      .join (records.map (recordScript view.columns view.formatters)) := by
    rw [script, if_neg (by simpa using filled)]
  rw [Script.append_of_ok rfl] at headed
  rw [← headerLines_eq]
  exact ⟨_, (Report.received_render view fresh records).trans (congrArg Script.output headed)⟩

end TableView

/-- A table with a column starts with the group row, if a column has a group, then the titles and
    their underlines. The group row has a cell for each column, which is the name of a group where a
    run of its columns starts, behind a bar unless it is the first, and empty everywhere else. The
    group of a column is the nearest boxed one around its leaf. All columns between two of a group
    are its own or those of boxed groups inside it, so that a second run of it starts right behind a
    column of one inside it. Next to a column of another group a run starts, whatever their names. -/
theorem group_row_labels_spans (descriptor : Descriptor) (options : ViewOptions)
    (records : List Record) :
    let view := TableView.ofDescriptor descriptor options
    let run := view.render ({} : Transcript) records
    let cells := groupCells none true view.columns
    let titles := view.columns.map (·.leaf.title)
    let underlines := titles.map fun title =>
      String.ofList (List.replicate (Text.visualWidth title) '-')
    (view.columns = [] → run.2.received = "") ∧
    (view.columns ≠ [] → ∃ body, run.2.received = unlines
      ((if view.columns.any (·.group.isSome) then ["\t".intercalate cells] else []) ++
        "\t".intercalate titles :: "\t".intercalate underlines :: body)) ∧
    cells.length = view.columns.length ∧
    (∀ i g, RunStarts view.columns i g → (∀ j < i, ∀ h, ¬ RunStarts view.columns j h) →
      cells[i]? = some g.name) ∧
    (∀ i g, RunStarts view.columns i g → ∀ j < i, ∀ h, RunStarts view.columns j h →
      cells[i]? = some ("| " ++ g.name)) ∧
    (∀ i < view.columns.length, (∀ g, ¬ RunStarts view.columns i g) → cells[i]? = some "") ∧
    (∀ schema, Schema.build descriptor options.formatters = .ok schema →
      (∀ column ∈ view.columns, ∃ around, Lineage schema.roots (.leaf column.leaf :: around) ∧
        column.group = nearestBox? around) ∧
      (∀ box ∈ schema.places, ∀ g, box.node.box? = some g →
        (∀ i k j, i < k → k < j → groupAt view.columns i = some g → groupAt view.columns j = some g →
          ∃ inner ∈ schema.places, inner.node.box?.isSome = true ∧
            groupAt view.columns k = inner.node.box? ∧ (inner = box ∨ inner.Below box)) ∧
        (∀ i j, i < j → RunStarts view.columns i g → RunStarts view.columns j g →
          ∃ inner ∈ schema.places, inner.node.box?.isSome = true ∧
            groupAt view.columns (j - 1) = inner.node.box? ∧ inner.Below box) ∧
        (∀ other ∈ schema.places, other ≠ box → ∀ h, other.node.box? = some h →
          ∀ i, groupAt view.columns i = some g → groupAt view.columns (i + 1) = some h →
            RunStarts view.columns (i + 1) h))) := by
  intro view run cells titles underlines
  have byId : GroupsById view.columns := TableView.groupsById_ofDescriptor descriptor options
  refine ⟨fun empty => ?_, fun filled => ?_, length_groupCells _ _ _, ?_, ?_,
    fun i => blank_of_not_runStarts byId, fun schema built => ?_⟩
  · cases error : view.error with
    | none => exact TableView.writtenAlone_of_empty error empty records
    | some e => simp only [run, TableView.render, error]
  · obtain ⟨body, received⟩ :=
      TableView.received_headed (TableView.error_of_columns_ne_nil filled) filled records
    refine ⟨body, received.trans ?_⟩
    rw [headerCells, List.map_append, List.append_assoc]
    cases view.columns.any (·.group.isSome) <;> rfl
  · intro i g starts unlabelled
    rw [label_of_runStarts byId starts, all_isNone_take.2 unlabelled]
    rfl
  · intro i g starts j lt h earlier
    have labelled : (view.columns.take i).all (·.group.isNone) = false :=
      Bool.eq_false_iff.2 fun none => all_isNone_take.1 none j lt h earlier
    rw [label_of_runStarts byId starts, labelled]
    rfl
  · have made : view.columns = columns schema (.resolve schema options.directive) := by
      simp only [view, TableView.ofDescriptor_ok built]
    rw [made]
    refine ⟨fun column => lineage_of_column, fun box here g boxed => ⟨?_, ?_, ?_⟩⟩
    · intro i k j lt lt' first last
      exact group_within built here boxed first last (by omega) (by omega)
    · intro i j lt starts again
      obtain ⟨inner, place, named, grouped, same | below⟩ :=
        group_within built here boxed starts.here again.here (k := j - 1) (by omega) (by omega)
      · -- The group itself cannot be right before a start of its run.
        rw [same, boxed] at grouped
        exact absurd grouped (again.before (j - 1) (by omega))
      · exact ⟨inner, place, named, grouped, below⟩
    · intro other place different h boxed' i first next
      refine ⟨next, fun j same before => different ?_⟩
      obtain rfl : i = j := by omega
      obtain rfl := Option.some_inj.1 (first.symm.trans before)
      exact box_unique built place here boxed' boxed

/-- The usage of a machine goes on behind its limits, and is labelled again. -/
theorem group_row_labels_spans_machines :
    let view := TableView.ofDescriptor Sample.machines {}
    (view.render ({} : Transcript) [Sample.machine]).2.received =
        "\tUsage\t| Limits\t| Usage\nname\tcpu\tmax\tmem\n----\t---\t---\t---\na\t1\t2\t3\n" ∧
      RunStarts view.columns 1 ⟨2, "Usage"⟩ ∧ RunStarts view.columns 3 ⟨2, "Usage"⟩ ∧
      (groupCells none true view.columns)[3]? = some "| Usage" ∧
      ∃ inner ∈ Sample.machineSchema.places, groupAt view.columns 2 = inner.node.box? ∧
        inner.Below ⟨Sample.loadGroup, []⟩ := by
  intro view
  have first : RunStarts view.columns 1 ⟨2, "Usage"⟩ := by
    refine ⟨rfl, fun j next => ?_⟩
    obtain rfl : j = 0 := by omega
    decide
  have again : RunStarts view.columns 3 ⟨2, "Usage"⟩ := by
    refine ⟨rfl, fun j next => ?_⟩
    obtain rfl : j = 2 := by omega
    decide
  obtain ⟨-, -, -, -, later, -, spans⟩ :=
    group_row_labels_spans Sample.machines {} [Sample.machine]
  obtain ⟨inner, place, -, grouped, below⟩ :=
    ((spans _ Sample.build_machines).2 _ Sample.loadGroup_mem_places ⟨2, "Usage"⟩ rfl).2.1 1 3
      (by decide) first again
  exact ⟨by rfl, first, again, later 3 _ again 1 (by decide) _ first, inner, place, grouped, below⟩

end StatusReport
