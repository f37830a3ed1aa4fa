import StatusReport.Layout.Basic
import StatusReport.Proofs.Report.GroupSpans
import StatusReport.Proofs.Report.ListingShape
import StatusReport.Proofs.Schema.Walk

/-! # The two names of a group

The group row of a table has the name of a group as it was declared, whatever that is. A listing
falls back to the title of the field where there is no name. So the two tell the same of a group
unless it has a title and no name. A layout never describes such a group: a group that it gives no
name goes by the title of its field from the start.

* `FieldSpec.IsNamed`: a group has a name if its field has a title.
* `LayoutField.isNamed_of_mem_visits`: it is so for all that a layout describes.
* `group_names_agree_iff`: when both reports name a group alike.
* `Sample.unnamed`: a group for which they do not.
-/

namespace StatusReport

/-! ## Names and titles -/

/-- There is no group without a name in a field with a title to go by. -/
def FieldSpec.IsNamed (spec : FieldSpec) : Prop :=
  ∀ g, spec.group = some g → g.name = "" → spec.displayTitle = ""

namespace LayoutField

theorem isNamed_spec (f : LayoutField) : f.spec.IsNamed := by
  intro g grouped unnamed
  obtain ⟨described, -, rfl⟩ := Option.map_eq_some_iff.1 grouped
  rw [LayoutGroup.spec] at unnamed
  by_cases empty : described.name = ""
  · rwa [if_pos empty] at unnamed
  · rw [if_neg empty] at unnamed
    exact absurd unnamed empty

mutual

theorem isNamed_of_mem_visits {around : List String} {f : LayoutField} {visit : Visit}
    (member : visit ∈ Field.visits around f.toField) : visit.field.spec.IsNamed := by
  obtain ⟨key, title, defaultText, format, group, fields⟩ := f
  -- What is declared of the field itself does not depend on the fields inside it.
  have named := isNamed_spec ⟨key, title, defaultText, format, group, []⟩
  rw [toField] at member
  split at member
  next =>
    rw [Field.visits, List.mem_cons] at member
    obtain rfl | inside := member
    · exact named
    · split at inside
      next => exact isNamed_of_mem_visitsAll inside
      next => cases inside
  next =>
    obtain rfl := List.mem_singleton.1 member
    exact named

theorem isNamed_of_mem_visitsAll {around : List String} {fields : List LayoutField} {visit : Visit}
    (member : visit ∈ Field.visitsAll around (toFields fields)) : visit.field.spec.IsNamed := by
  cases fields with
  | nil => cases member
  | cons f rest =>
    rw [toFields, Field.visitsAll, List.mem_append] at member
    exact member.elim isNamed_of_mem_visits isNamed_of_mem_visitsAll

end

end LayoutField

/-! ## Groups and their fields -/

theorem Field.group_of_group? {field : Field} {group : GroupSpec} {inner : List Field}
    (grouped : field.group? = some (group, inner)) : field.spec.group = some group := by
  cases field with
  | scalar spec => cases grouped
  | record spec typeName fields =>
    simp only [group?, FieldSpec.activeGroup?, Option.map_eq_some_iff, Prod.mk.injEq] at grouped
    obtain ⟨_, active, rfl, -⟩ := grouped
    cases format : spec.format with
    | none => rwa [format] at active
    | some id => simp [format] at active

theorem Node.MadeOf.declared {node : Node} {visit : Visit} (made : node.MadeOf visit)
    {g : ColumnGroup} (boxed : node.box? = some g) :
    node.label.title = visit.field.spec.displayTitle ∧
      visit.field.spec.group = some ⟨g.name, false⟩ := by
  refine ⟨by rw [made.label]; rfl, ?_⟩
  match node with
  | .group label name false children =>
    cases boxed
    obtain ⟨⟨_, inner⟩, grouped, rfl⟩ := Option.map_eq_some_iff.1 made.group.symm
    exact Field.group_of_group? grouped

/-- The header of a boxed group says the name of the group exactly if the field is named. -/
theorem Node.MadeOf.headerName_eq_iff {node : Node} {visit : Visit} (made : node.MadeOf visit)
    {g : ColumnGroup} (boxed : node.box? = some g) :
    g.name = DetailView.headerName node.label g.name ↔ visit.field.spec.IsNamed := by
  obtain ⟨title, declared⟩ := made.declared boxed
  have named : visit.field.spec.IsNamed ↔ (g.name = "" → node.label.title = "") := by
    rw [FieldSpec.IsNamed, declared, title]
    exact ⟨fun all => all _ rfl, fun here g' same => by cases same; exact here⟩
  rw [named, DetailView.headerName]
  by_cases empty : g.name = ""
  · rw [if_pos empty, empty]
    exact ⟨fun same _ => same.symm, fun here => (here rfl).symm⟩
  · rw [if_neg empty]
    exact ⟨fun _ none => absurd none empty, fun _ => rfl⟩

theorem Schema.exists_visit_of_place {descriptor : Descriptor} {formatters : Registry}
    {schema : Schema} (built : build descriptor formatters = .ok schema) {p : Place}
    (here : p ∈ schema.places) : ∃ visit ∈ descriptor.visits, p.node.MadeOf visit := by
  have member := List.mem_map_of_mem (f := (·.node)) here
  rw [places, Node.map_node_placesAll] at member
  exact (build_eq_ok_iff.1 built).2.exists_visit member

/-! ## The two reports -/

theorem DetailView.lineAt_of_box {view : DetailView} {r : Record} {box : Place} {g : ColumnGroup}
    (boxed : box.node.box? = some g) {header : Line} (made : view.lineAt r box = some header) :
    header = .header box.depth (headerName box.node.label g.name) := by
  obtain ⟨node, around⟩ := box
  match node with
  | .group label name false children =>
    cases boxed
    exact (lineAt_boxed_eq_some_iff.1 made).2

theorem TableView.groupRow_first {view : TableView} (fresh : view.error = none) {column : Column}
    (member : column ∈ view.columns) (grouped : column.group.isSome = true) (records : List Record) :
    ∃ rest, (view.render ({} : Transcript) records).2.received =
      unlines ("\t".intercalate (groupCells none true view.columns) :: rest) := by
  obtain ⟨body, received⟩ := received_headed fresh (List.ne_nil_of_mem member) records
  have row : view.columns.any (·.group.isSome) = true := List.any_eq_true.2 ⟨column, member, grouped⟩
  rw [received, headerCells, if_pos row]
  exact ⟨_, rfl⟩

/-- A boxed group with a column of its own is labelled in the group row of a table, with its name as
    it was declared. Its header in a listing says the name too, or the title where there is none. The
    two are the same exactly if the field has no title either or the group has a name, and they
    always are for a layout. -/
theorem group_names_agree_iff (descriptor : Descriptor) (options : ViewOptions) (r : Record) :
    let table := TableView.ofDescriptor descriptor options
    let listing := DetailView.ofDescriptor descriptor options
    let cells := groupCells none true table.columns
    ∀ schema, Schema.build descriptor options.formatters = .ok schema → listing.ShowsAll r →
      ∀ box ∈ schema.places, ∀ g, box.node.box? = some g →
        ∀ column ∈ table.columns, column.group = some g →
          ∀ header, (box, header) ∈ listing.produced r schema.places →
            (∀ records, ∃ rest, (table.render ({} : Transcript) records).2.received =
              unlines ("\t".intercalate cells :: rest)) ∧
            (∃ i, RunStarts table.columns i g) ∧
            (∀ i, RunStarts table.columns i g →
              cells[i]? = some g.name ∨ cells[i]? = some ("| " ++ g.name)) ∧
            (listing.render ({} : Transcript) r).2.received =
              DetailView.listingText ((listing.produced r schema.places).map (·.2)) ∧
            header = .header box.depth (DetailView.headerName box.node.label g.name) ∧
            (∃ before after, (listing.render ({} : Transcript) r).2.received =
              unlines (before ++ (String.ofList (List.replicate (2 * box.depth) ' ') ++
                (DetailView.headerName box.node.label g.name ++ ":")) :: after)) ∧
            (∃ visit ∈ descriptor.visits, box.node.MadeOf visit ∧
              (g.name = DetailView.headerName box.node.label g.name ↔ visit.field.spec.IsNamed)) ∧
            (∀ layout : Layout, layout.descriptor = descriptor →
              g.name = DetailView.headerName box.node.label g.name) := by
  intro table listing cells schema built shown box here g boxed column member grouped header produced
  have fresh : table.error = none :=
    TableView.error_of_columns_ne_nil (List.ne_nil_of_mem member)
  have byId : GroupsById table.columns := TableView.groupsById_ofDescriptor descriptor options
  obtain ⟨visit, visited, made⟩ := Schema.exists_visit_of_place built here
  have alike := made.headerName_eq_iff boxed
  have written := (DetailView.written_of_showsAll built shown).2.1
  have header_eq := DetailView.lineAt_of_box boxed (DetailView.mem_produced.1 produced).2
  refine ⟨TableView.groupRow_first fresh member (by rw [grouped]; rfl), ?_, ?_, written, header_eq,
    ?_, ⟨visit, visited, made, alike⟩, ?_⟩
  -- The column may be inside a run, which has a start at or before it.
  · obtain ⟨i, at_i⟩ := List.mem_iff_getElem?.1 member
    have first : groupAt table.columns i = some g := by
      rw [groupAt, at_i, Option.bind_some, grouped]
    obtain ⟨j, -, starts⟩ := exists_runStarts first
    exact ⟨j, starts⟩
  · intro i starts
    rw [label_of_runStarts byId starts, groupLabel]
    cases (table.columns.take i).all (·.group.isNone) with
    | true => exact .inl rfl
    | false => exact .inr rfl
  · obtain ⟨before, after, split⟩ := List.append_of_mem (List.mem_map_of_mem (f := (·.2)) produced)
    rw [written, split, header_eq, DetailView.listingText, List.map_append, List.map_cons]
    exact ⟨_, _, rfl⟩
  -- The fields of a layout are always named, as a name falls back to the title there.
  · rintro layout rfl
    exact alike.2 (LayoutField.isNamed_of_mem_visitsAll visited)

/-- The usage of a machine has a column and a header, and a name in both. -/
theorem group_names_agree_iff_machines :
    let table := TableView.ofDescriptor Sample.machines {}
    let listing := DetailView.ofDescriptor Sample.machines {}
    let box : Place := ⟨Sample.loadGroup, []⟩
    listing.ShowsAll Sample.machine ∧
      (∀ i, RunStarts table.columns i ⟨2, "Usage"⟩ →
        (groupCells none true table.columns)[i]? = some "Usage" ∨
          (groupCells none true table.columns)[i]? = some "| Usage") ∧
      (box, .header 0 "Usage") ∈ listing.produced Sample.machine Sample.machineSchema.places ∧
      (table.render ({} : Transcript) [Sample.machine]).2.received =
        "\tUsage\t| Limits\t| Usage\nname\tcpu\tmax\tmem\n----\t---\t---\t---\na\t1\t2\t3\n" ∧
      (listing.render ({} : Transcript) Sample.machine).2.received =
        "name:\ta\nUsage:\n  cpu:\t1\n  Limits:\n    max:\t2\n  mem:\t3\n" := by
  intro table listing box
  have filled : listing.Fills Sample.machine (Schema.labelOf [] ["usage"] { key := "cpu" } 3) "1" :=
    ⟨rfl, rfl, by decide⟩
  have produced : (box, .header 0 "Usage") ∈
      listing.produced Sample.machine Sample.machineSchema.places :=
    DetailView.mem_produced.2 ⟨Sample.loadGroup_mem_places, DetailView.lineAt_boxed_eq_some_iff.2
      ⟨⟨_, List.mem_cons_self, _, filled⟩, rfl⟩⟩
  obtain ⟨-, -, labels, listed, -⟩ := group_names_agree_iff Sample.machines {} Sample.machine _
    Sample.build_machines DetailView.showsAll_machine box Sample.loadGroup_mem_places ⟨2, "Usage"⟩ rfl
    ⟨Schema.labelOf [] ["usage"] { key := "cpu" } 3, some ⟨2, "Usage"⟩⟩
    (List.mem_cons_of_mem _ List.mem_cons_self) rfl _ produced
  exact ⟨DetailView.showsAll_machine, labels, produced, by rfl, listed.trans (by rfl)⟩

/-! ## A group without a name -/

namespace Sample

/-- Usage, with a title, in a boxed group without a name. -/
def unnamed : Descriptor where
  fields := [.record { key := "usage", title := some "USAGE", group := some ⟨"", false⟩ } ""
    [.scalar { key := "cpu" }]]

def unnamedGroup : Node :=
  .group (Schema.labelOf [] [] { key := "usage", title := some "USAGE", group := some ⟨"", false⟩ } 1)
    "" false [.leaf (Schema.labelOf [] ["usage"] { key := "cpu" } 2)]

def unnamedSchema : Schema := ⟨"", [unnamedGroup], 3⟩

def cpuUsage : Record where
  field _ := .record (fun _ => .int 1) ""

end Sample

/-- The group of the usage is labelled with nothing above its column, and with the title in a
    listing. -/
theorem unnamed_group_has_two_names :
    let table := TableView.ofDescriptor Sample.unnamed {}
    let listing := DetailView.ofDescriptor Sample.unnamed {}
    let box : Place := ⟨Sample.unnamedGroup, []⟩
    Schema.build Sample.unnamed {} = .ok Sample.unnamedSchema ∧ listing.ShowsAll Sample.cpuUsage ∧
      box.node.box? = some ⟨1, ""⟩ ∧ RunStarts table.columns 0 ⟨1, ""⟩ ∧
      (groupCells none true table.columns)[0]? = some "" ∧
      (box, .header 0 "USAGE") ∈ listing.produced Sample.cpuUsage Sample.unnamedSchema.places ∧
      (table.render ({} : Transcript) [Sample.cpuUsage]).2.received = "\ncpu\n---\n1\n" ∧
      (listing.render ({} : Transcript) Sample.cpuUsage).2.received = "USAGE:\n  cpu:\t1\n" := by
  intro table listing box
  have usageRow : TableView.row (columnsOf listing.visibility none Sample.unnamedGroup) {}
    Sample.cpuUsage = .ok ["1"] := by rfl
  have shown : listing.ShowsAll Sample.cpuUsage := DetailView.showsAll_iff.2
    (List.forall_mem_singleton.2 (TableView.shows_of_row usageRow))
  exact ⟨rfl, shown, rfl, ⟨rfl, nofun⟩, rfl, List.mem_cons_self, by rfl, by rfl⟩

end StatusReport
