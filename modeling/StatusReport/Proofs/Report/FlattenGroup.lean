import StatusReport.Proofs.Report.MovedNodes

/-! # Flatten groups are transparent

Some of the fields of a record type can be gathered in a record field that is a flatten group. Their
nodes then have other numbers, and selectors that begin with the key of the group, but the same
addresses, so a directive that does not list the group shows the same leaves. A record that holds
the values of these leaves one key further down makes the same table and the same listing.

* `Gathered`: records that hold the same values, some of them one key further down.
* `Schema.Gathering`: the two trees, part by part.
* `Column.Gathers`: the columns of the two trees, one by one.
* `flatten_groups_are_transparent`: they make the same reports.
-/

namespace StatusReport

/-! ## Gathered values -/

/-- Two records hold the same values for the leaves among fields, the second one those in the middle
    under one more key. -/
structure Gathered (before fields after : List Field) (key : String) (r r' : Record) : Prop where
  outside : ∀ selector ∈ Field.leafSelectors before ++ Field.leafSelectors after,
    r'.extract selector = r.extract selector
  inside : ∀ selector ∈ Field.leafSelectors fields,
    r'.extract (key :: selector) = r.extract selector

/-! ## The two trees -/

/-- The number that a node has once a group stands where node `first` was. -/
def past (first id : Nat) : Nat := if id < first then id else id + 1

theorem past_injective (first : Nat) : Function.Injective (past first) := by
  intro a b same
  simp only [past] at same
  split at same <;> split at same <;> omega

namespace Schema

/-- The tree of fields, and that of the same fields with those in the middle in a flatten group. -/
structure Gathering (formatters : Registry) (before fields after : List Field) (key : String)
    (schema schema' : Schema) where
  front : List Node
  middle : List Node
  back : List Node
  first : Nat
  last : Nat
  built_front : Built formatters [] [] before 1 front first
  built_middle : Built formatters [] [] fields first middle last
  built_back : Built formatters [] [] after last back schema.size
  spec : FieldSpec
  name : String
  key_eq : spec.key = key
  roots : schema.roots = front ++ (middle ++ back)
  roots' : schema'.roots = Node.movedAll [] 0 front ++
    (.group (labelOf [] [] spec first) name true (Node.movedAll [key] 1 middle) ::
      Node.movedAll [] 1 back)

variable {formatters : Registry} {before fields after : List Field} {key : String}
  {schema schema' : Schema}

theorem exists_gathering {descriptor descriptor' : Descriptor} {name typeName : String}
    {title defaultText : Option String} (declared : descriptor.fields = before ++ (fields ++ after))
    (declared' : descriptor'.fields =
      before ++ (.grouped key ⟨name, true⟩ title defaultText typeName fields :: after))
    (built : build descriptor formatters = .ok schema) :
    ∃ schema', build descriptor' formatters = .ok schema' ∧
      Nonempty (Gathering formatters before fields after key schema schema') := by
  have tree := (build_eq_ok_iff.1 built).2
  rw [declared] at tree
  obtain ⟨front, first, rest, roots, builtFront, builtRest⟩ := tree.of_append
  obtain ⟨middle, last, back, rfl, builtMiddle, builtBack⟩ := builtRest.of_append
  have tree' := builtFront.append
    (@Built.grouped _ _ _ _ _ _ _ _ key typeName ⟨name, true⟩ title defaultText builtMiddle builtBack)
  rw [← declared'] at tree'
  refine ⟨⟨_, _, _⟩, build_eq_ok_iff.2 ⟨rfl, tree'⟩, ⟨?_⟩⟩
  exact
    { front, middle, back, first, last
      built_front := builtFront
      built_middle := builtMiddle
      built_back := builtBack
      spec := (Field.grouped key ⟨name, true⟩ title defaultText typeName fields).spec
      name
      key_eq := rfl
      roots
      roots' := by rw [Node.movedAll_nil_zero] }

end Schema

section Parts

open Schema (Gathering)

variable {formatters : Registry} {before fields after : List Field} {key : String}
  {schema schema' : Schema} {v w : Visibility} {directive : Directive}

structure Schema.Gathering.Faithful (g : Gathering formatters before fields after key schema schema')
    (v w : Visibility) : Prop where
  front : FaithfulMove v w (Gathered before fields after key) [] 0 g.front
  middle : FaithfulMove v w (Gathered before fields after key) [key] 1 g.middle
  back : FaithfulMove v w (Gathered before fields after key) [] 1 g.back

theorem Schema.Gathering.faithful
    (g : Gathering formatters before fields after key schema schema')
    (unlisted : ¬ directive.Lists key)
    (here : Visibility.FollowsAll v directive directive.rootDefault schema.roots)
    (there : Visibility.FollowsAll w directive directive.rootDefault schema'.roots) :
    g.Faithful v w := by
  rw [g.roots, Visibility.followsAll_append, Visibility.followsAll_append] at here
  rw [g.roots', Visibility.followsAll_append, Visibility.FollowsAll] at there
  obtain ⟨front, middle, back⟩ := here
  obtain ⟨front', group, back'⟩ := there
  -- The group says what its parent does, so what is inside it inherits what it did before.
  have passes : ¬ directive.Lists g.spec.key := by
    rw [g.key_eq]
    exact unlisted
  have middle' := Visibility.Follows.of_unlisted passes group
  refine ⟨⟨front.moved front', ?_⟩, ⟨middle.moved middle', ?_⟩, ⟨back.moved back', ?_⟩⟩
  · intro leaf member r r' pair
    exact pair.outside _ (List.mem_append_left _ (g.built_front.mem_leafSelectors member))
  · intro leaf member r r' pair
    exact pair.inside _ (g.built_middle.mem_leafSelectors member)
  · intro leaf member r r' pair
    exact pair.outside _ (List.mem_append_right _ (g.built_back.mem_leafSelectors member))

end Parts

/-! ## Reports -/

structure Column.Gathers (formatters : Registry) (first : Nat) (key : String)
    (S : Record → Record → Prop) (c c' : Column) : Prop where
  selector : c'.leaf.selector = c.leaf.selector ∨ c'.leaf.selector = key :: c.leaf.selector
  title : c'.leaf.title = c.leaf.title
  group : c'.group = c.group.map (.renumber (past first))
  cells : ∀ r r', S r r' → SameCell formatters r r' c.leaf c'.leaf

section Reports

open Schema (Built Gathering)

variable {formatters : Registry} {before fields after : List Field} {key : String}
  {schema schema' : Schema} {v w : Visibility}

theorem FaithfulMove.gathers {S : Record → Record → Prop} {around : List String}
    {shift first next last : Nat} {nodes : List Node} {part : List Field}
    (move : FaithfulMove v w S around shift nodes) (ignore : formatters.IgnoreRecords)
    (built : Built formatters [] [] part next nodes last) (place : around = [] ∨ around = [key])
    (number : ∀ id, next ≤ id → id < last → past first id = id + shift) :
    List.Forall₂ (Column.Gathers formatters first key S) (columnsOfAll v none nodes)
      (columnsOfAll w none (Node.movedAll around shift nodes)) := by
  rw [move.columns, List.forall₂_map_right_iff, List.forall₂_same]
  intro c member
  refine ⟨?_, rfl, ?_, fun r r' pair =>
    move.sameCell ignore pair (leaf_mem_of_mem_columnsOfAll member)⟩
  · exact place.imp (fun h => by rw [h]; rfl) (fun h => by rw [h]; rfl)
  · change c.group.map (ColumnGroup.renumber (· + shift)) = c.group.map (.renumber (past first))
    cases grouped : c.group with
    | none => rfl
    | some g =>
      obtain ⟨lower, upper⟩ := built.group_bounds member grouped
      simp only [Option.map_some, ColumnGroup.renumber, number g.id lower upper]

theorem Schema.Gathering.columns
    (g : Gathering formatters before fields after key schema schema')
    (ignore : formatters.IgnoreRecords)
    (faithful : g.Faithful v w) :
    List.Forall₂ (Column.Gathers formatters g.first key (Gathered before fields after key))
      (StatusReport.columns schema v) (StatusReport.columns schema' w) := by
  -- The numbers before the group stay, and those of the middle and the back are higher by one.
  have bound := g.built_middle.le
  rw [StatusReport.columns, StatusReport.columns, g.roots, g.roots', columnsOfAll_append,
    columnsOfAll_append, columnsOfAll_append, columnsOfAll]
  refine List.rel_append (faithful.front.gathers ignore g.built_front (.inl rfl) fun id _ upper => ?_)
    (List.rel_append
      (faithful.middle.gathers ignore g.built_middle (.inr rfl) fun id lower _ => ?_)
      (faithful.back.gathers ignore g.built_back (.inl rfl) fun id lower _ => ?_))
  · exact if_pos upper
  · exact if_neg (by omega)
  · exact if_neg (by omega)

theorem Schema.Gathering.lines
    (g : Gathering formatters before fields after key schema schema')
    (ignore : formatters.IgnoreRecords)
    (faithful : g.Faithful v w) {r r' : Record} (pair : Gathered before fields after key r r') :
    (DetailView.linesOfAll w formatters r' 0 schema'.roots).toOption =
      (DetailView.linesOfAll v formatters r 0 schema.roots).toOption := by
  rw [g.roots, g.roots', DetailView.linesOfAll_append, DetailView.linesOfAll_append,
    DetailView.linesOfAll_append, DetailView.linesOfAll_cons]
  exact toOption_andThen_congr (faithful.front.lines ignore pair 0)
    (toOption_andThen_congr (faithful.middle.lines ignore pair 0)
      (faithful.back.lines ignore pair 0))

end Reports

/-! ## Transparency -/

section Transparency

variable {before fields after : List Field} {key name typeName plainName groupedName : String}
  {title defaultText : Option String} {plain grouped : Descriptor} {formatters : Registry}

/-- A flatten group around fields adds no error of the schema, and drops none. -/
theorem builds_iff_builds_flattened (declared : plain.fields = before ++ (fields ++ after))
    (declared' : grouped.fields =
      before ++ (.grouped key ⟨name, true⟩ title defaultText typeName fields :: after)) :
    (∃ schema, Schema.build plain formatters = .ok schema) ↔
      ∃ schema, Schema.build grouped formatters = .ok schema := by
  rw [Schema.exists_build_eq_ok_iff, Schema.exists_build_eq_ok_iff, Descriptor.visits,
    Descriptor.visits, declared, declared', Field.visitsAll_append, Field.visitsAll_append,
    Field.visitsAll_append, Field.visitsAll, Field.visits_grouped, List.nil_append,
    Field.visitsAll_below]
  simp only [List.forall_mem_append, List.forall_mem_cons, List.forall_mem_map,
    Visit.resolved_below, Field.resolved_grouped, true_and]

variable {options : ViewOptions} {schema schema' : Schema}

theorem Schema.Gathering.twins
    (g : Schema.Gathering options.formatters before fields after key schema schema')
    (built : Schema.build plain options.formatters = .ok schema)
    (built' : Schema.build grouped options.formatters = .ok schema')
    (ignore : options.formatters.IgnoreRecords)
    (faithful : g.Faithful (.resolve schema options.directive)
      (.resolve schema' options.directive)) :
    TableView.Twins
      (Column.Gathers options.formatters g.first key (Gathered before fields after key))
      (Gathered before fields after key) (.ofDescriptor plain options)
      (.ofDescriptor grouped options) := by
  rw [TableView.ofDescriptor_ok built, TableView.ofDescriptor_ok built']
  exact
    { formatters := rfl
      columns := g.columns ignore faithful
      cells := fun _ _ here => here.cells
      known := known_of_build built _
      known' := known_of_build built' _ }

end Transparency

/-- Some of the fields of a record type are gathered in a flatten group that the directive does not
    list, and records hold the values of these fields below the key of the group. If formatters look
    at values alone, then the schemas of both types are built or neither is. The tables write the
    same to every sink, and end alike: at the same record and the same column, if a formatter
    refuses. The listings succeed together, and then write the same. -/
theorem flatten_groups_are_transparent {σ : Type u} [Sink σ] (before fields after : List Field)
    (key name typeName : String) (title defaultText : Option String)
    (plainName groupedName : String) (options : ViewOptions)
    (unlisted : ¬ options.directive.Lists key) (ignore : options.formatters.IgnoreRecords) (s : σ) :
    let plain : Descriptor := ⟨plainName, before ++ fields ++ after⟩
    let grouped : Descriptor := ⟨groupedName,
      before ++ [.grouped key ⟨name, true⟩ title defaultText typeName fields] ++ after⟩
    let table := TableView.ofDescriptor plain options
    let table' := TableView.ofDescriptor grouped options
    let listing := DetailView.ofDescriptor plain options
    let listing' := DetailView.ofDescriptor grouped options
    ((∃ schema, Schema.build plain options.formatters = .ok schema) ↔
      ∃ schema, Schema.build grouped options.formatters = .ok schema) ∧
    (∀ records records', List.Forall₂ (Gathered before fields after key) records records' →
      (table.render s records).2 = (table'.render s records').2 ∧
      TableView.SameEnd
        (fun c c' => c'.leaf.selector = c.leaf.selector ∨ c'.leaf.selector = key :: c.leaf.selector)
        table table' records records' (table.render s records).1.result
        (table'.render s records').1.result) ∧
    (∀ r r', Gathered before fields after key r r' →
      ((listing.render s r).1.result = .ok () ↔ (listing'.render s r').1.result = .ok ()) ∧
      ((listing.render s r).1.result = .ok () →
        (listing.render s r).2 = (listing'.render s r').2)) := by
  intro plain grouped table table' listing listing'
  have declared : plain.fields = before ++ (fields ++ after) := List.append_assoc ..
  have declared' : grouped.fields =
      before ++ (.grouped key ⟨name, true⟩ title defaultText typeName fields :: after) :=
    List.append_assoc ..
  have together := @builds_iff_builds_flattened before fields after key name typeName title
    defaultText plain grouped options.formatters declared declared'
  refine ⟨together, ?_⟩
  cases built : Schema.build plain options.formatters with
  | error e =>
    cases built' : Schema.build grouped options.formatters with
    | ok schema' => simp [built, built'] at together
    | error e' =>
      -- Without a schema nothing is rendered at all.
      simp only [table, table', listing, listing', TableView.ofDescriptor_error built,
        TableView.ofDescriptor_error built', DetailView.ofDescriptor_error built,
        DetailView.ofDescriptor_error built']
      exact ⟨fun _ _ _ => ⟨rfl, .schema e e'⟩,
        fun _ _ _ => ⟨iff_of_false (fun ended => nomatch ended) (fun ended => nomatch ended),
          fun _ => rfl⟩⟩
  | ok schema =>
    obtain ⟨schema', built', ⟨g⟩⟩ := Schema.exists_gathering declared declared' built
    have faithful := g.faithful unlisted (Visibility.followsAll_resolve built options.directive)
      (Visibility.followsAll_resolve built' options.directive)
    have twins := g.twins built built' ignore faithful
    have fresh : table.error = none := by simp only [table, TableView.ofDescriptor_ok built]
    have fresh' : table'.error = none := by simp only [table', TableView.ofDescriptor_ok built']
    refine ⟨fun records records' pairs => ?_, fun r r' pair => ?_⟩
    · obtain ⟨rows, -, lines, lines', ended⟩ := twins.script pairs
      have same : (table.script records).lines = (table'.script records').lines := by
        rw [lines, lines']
        exact (tableLines_renumber (past_injective g.first)
          (twins.columns.imp fun _ _ here => ⟨here.title, here.group⟩) rows).symm
      obtain ⟨written, alike⟩ := TableView.SameEnd.render fresh fresh' same ended s
      exact ⟨written, alike.imp fun _ _ here => here.selector⟩
    · refine DetailView.render_of_same_lines s ?_ ?_ ?_
      · simp only [listing, DetailView.ofDescriptor_ok built]
      · simp only [listing', DetailView.ofDescriptor_ok built']
      · simp only [listing, listing', DetailView.ofDescriptor_ok built,
          DetailView.ofDescriptor_ok built', DetailView.lines]
        exact g.lines ignore faithful pair

def Sample.flatJob (name : String) (memory : Value) : Record where
  field key := if key = "name" then .str name else if key = "memory" then memory else .nil

/-- Jobs make the same reports with their time and memory beside the name as with both in a flatten
    group, also if the memory of the second job is refused. -/
theorem flatten_groups_are_transparent_jobs :
    let before : List Field := [.scalar { key := "name", title := some "NAME" }]
    let fields : List Field := [.scalar { key := "time", title := some "TIME" },
      .scalar { key := "memory", title := some "MEM", format := some Formatter.byteSizeId }]
    let plain : Descriptor := ⟨"Job", before ++ fields ++ []⟩
    let grouped : Descriptor := ⟨"Job",
      before ++ [.grouped "usage" ⟨"Usage", true⟩ none none "Usage" fields] ++ []⟩
    let table := TableView.ofDescriptor plain Sample.options
    let table' := TableView.ofDescriptor grouped Sample.options
    let listing := DetailView.ofDescriptor plain Sample.options
    let listing' := DetailView.ofDescriptor grouped Sample.options
    let records := [Sample.flatJob "a" (.int 1536), Sample.flatJob "b" (.str "?")]
    let records' := [Sample.job "a" (.int 1536), Sample.job "b" (.str "?")]
    List.Forall₂ (Gathered before fields [] "usage") records records' ∧
      (table.render ({} : Transcript) records).2 = (table'.render ({} : Transcript) records').2 ∧
      (table'.render ({} : Transcript) records').2.received =
        "NAME\tMEM\n----\t---\na\t1.5 KiB\n" ∧
      (listing.render ({} : Transcript) (Sample.flatJob "a" (.int 1536))).2 =
        (listing'.render ({} : Transcript) (Sample.job "a" (.int 1536))).2 := by
  intro before fields plain grouped table table' listing listing' records records'
  have gathered (name : String) (memory : Value) :
      Gathered before fields [] "usage" (Sample.flatJob name memory) (Sample.job name memory) := by
    have outside : Field.leafSelectors before ++ Field.leafSelectors [] = [["name"]] := rfl
    have inside : Field.leafSelectors fields = [["time"], ["memory"]] := rfl
    refine ⟨?_, ?_⟩
    · rw [outside, List.forall_mem_singleton]
      rfl
    · rw [inside, List.forall_mem_cons, List.forall_mem_singleton]
      exact ⟨rfl, rfl⟩
  obtain ⟨-, tables, listings⟩ := flatten_groups_are_transparent before fields [] "usage" "Usage"
    "Usage" none none "Job" "Job" Sample.options (by decide) Registry.ignoreRecords_empty
    ({} : Transcript)
  have pairs : List.Forall₂ (Gathered before fields [] "usage") records records' :=
    .cons (gathered _ _) (.cons (gathered _ _) .nil)
  have written := (tables records records' pairs).1
  have listed := (listings _ _ (gathered "a" (.int 1536))).2 (by rfl)
  refine ⟨pairs, written, ?_, listed⟩
  rw [← written]
  decide +kernel

end StatusReport
