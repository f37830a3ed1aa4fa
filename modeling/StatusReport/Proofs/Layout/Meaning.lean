import StatusReport.Layout.Basic
import StatusReport.Proofs.Report.Addresses
import StatusReport.Proofs.Report.Selection

/-! # What a layout means

A layout becomes a descriptor, and the descriptor a schema. Each step has a rule of its own for what
is a record and what a group, and both together come to one rule: a field is a group if it has a
group and no format, whether there are fields inside it or not. The walk over a layout goes into such
fields only. What it reaches are the nodes of the schema, one for each field and in the same order.

* `LayoutField.isGroup`, `Layout.entries`: the rule, and the walk over a layout.
* `Layout.visits_descriptor`: it is the walk over the descriptor.
* `Node.DescribedBy`: a node is as a field of a layout says.
* `layout_describes_schema`: so are all nodes of the schema of a layout, and all columns.
-/

namespace StatusReport

/-! ## The walk over a layout -/

def LayoutField.isGroup (f : LayoutField) : Bool := f.group.isSome && f.format.isNone

/-- A field of a layout that is reached, and the keys of the groups around it, the outermost first. -/
structure LayoutEntry where
  around : List String
  field : LayoutField

def LayoutEntry.selector (entry : LayoutEntry) : List String := entry.around ++ [entry.field.key]

namespace LayoutField

mutual

/-- A field, and what is reached inside it. -/
def entries (around : List String) : LayoutField → List LayoutEntry
  | ⟨key, title, defaultText, format, group, fields⟩ =>
    ⟨around, ⟨key, title, defaultText, format, group, fields⟩⟩ ::
      if group.isSome && format.isNone then entriesAll (around ++ [key]) fields else []

def entriesAll (around : List String) : List LayoutField → List LayoutEntry
  | [] => []
  | f :: rest => entries around f ++ entriesAll around rest

end

end LayoutField

def Layout.entries (layout : Layout) : List LayoutEntry :=
  LayoutField.entriesAll [] layout.fields

/-! ## From layouts to descriptors -/

/-- The visit to the declared field that a field of a layout stands for. -/
def LayoutEntry.visit (entry : LayoutEntry) : Visit := ⟨entry.around, entry.field.toField⟩

namespace LayoutField

theorem group?_toField (f : LayoutField) :
    f.toField.group? = if f.isGroup then
      (f.group.map (·.spec f.key f.title)).map (·, toFields f.fields) else none := by
  obtain ⟨key, title, defaultText, format, group, fields⟩ := f
  rw [toField, isGroup]
  cases group with
  | none => split <;> cases format <;> rfl
  | some g => cases format <;> rfl

mutual

theorem visits_toField (around : List String) (f : LayoutField) :
    f.toField.visits around = (f.entries around).map LayoutEntry.visit := by
  obtain ⟨key, title, defaultText, format, group, fields⟩ := f
  have grouped := group?_toField ⟨key, title, defaultText, format, group, fields⟩
  rw [entries, List.map_cons]
  cases opens : group.isSome && format.isNone with
  | false =>
    rw [isGroup, opens] at grouped
    exact Field.visits_of_single around grouped
  | true =>
    obtain ⟨g, rfl⟩ := Option.isSome_iff_exists.1 (Bool.and_eq_true_iff.1 opens).1
    rw [isGroup, opens] at grouped
    rw [Field.visits_of_group around grouped, spec_toField]
    exact congrArg (_ :: ·) (visitsAll_toFields (around ++ [key]) fields)

theorem visitsAll_toFields (around : List String) (fields : List LayoutField) :
    Field.visitsAll around (toFields fields) = (entriesAll around fields).map LayoutEntry.visit := by
  cases fields with
  | nil => rfl
  | cons f rest =>
    rw [toFields, Field.visitsAll, entriesAll, List.map_append, visits_toField around f,
      visitsAll_toFields around rest]

end

end LayoutField

theorem Layout.visits_descriptor (layout : Layout) :
    layout.descriptor.visits = layout.entries.map LayoutEntry.visit :=
  LayoutField.visitsAll_toFields [] layout.fields

/-! ## From layouts to schemas -/

/-- A node is as a field of a layout says, the field being reached at an entry. -/
structure Node.DescribedBy (node : Node) (entry : LayoutEntry) : Prop where
  key : node.label.key = entry.field.key
  selector : node.label.selector = entry.selector
  title : node.label.title = entry.field.title.getD entry.field.key
  defaultText : node.label.defaultText = entry.field.defaultText.getD ""
  formatter : node.label.formatter = entry.field.format
  isGroup : node.isGroup = true ↔ entry.field.group.isSome = true ∧ entry.field.format = none
  /-- A group goes by the name that the field gives it, else by the title, else by the key. -/
  name : ∀ label name flatten children, node = .group label name flatten children →
    ∃ g, entry.field.group = some g ∧ flatten = g.flatten ∧
      name = if g.name ≠ "" then g.name else entry.field.title.getD entry.field.key
  /-- The nodes in a group are those of the fields inside the field, and there are none in a leaf. -/
  children : node.children.map (·.label.selector) =
    if node.isGroup then entry.field.fields.map fun f => entry.selector ++ [f.key] else []

namespace Schema

variable {formatters : Registry}

theorem Built.keys_children {path around : List String} {fields : List Field} {next after : Nat}
    {nodes : List Node} (built : Built formatters path around fields next nodes after) :
    List.Forall₂ (fun node visit => node.children.map (·.label.key) =
        (visit.field.group?.elim [] (·.2)).map (·.spec.key))
      (Node.flatAll nodes) (Field.visitsAll around fields) := by
  induction built with
  | nil => exact .nil
  | leaf _ single _ ih =>
    rw [Field.visitsAll, Field.visits_of_single _ single]
    exact .cons (by rw [single]; rfl) ih
  | group _ grouped inner _ inside ih =>
    rw [Field.visitsAll, Field.visits_of_group _ grouped]
    exact .cons (by rw [grouped]; exact inner.keys) (List.rel_append inside ih)

end Schema

theorem Node.DescribedBy.isGroup_eq {node : Node} {entry : LayoutEntry}
    (described : node.DescribedBy entry) : node.isGroup = entry.field.isGroup := by
  rw [Bool.eq_iff_iff, described.isGroup, LayoutField.isGroup, Bool.and_eq_true_iff,
    Option.isNone_iff_eq_none]

section Described

variable {node : Node} {entry : LayoutEntry} (made : node.MadeOf entry.visit)

include made

theorem Node.MadeOf.label_eq :
    node.label = Schema.labelOf [] entry.around entry.field.spec node.label.id := by
  rw [← LayoutField.spec_toField]
  exact made.label

theorem Node.MadeOf.groupSpec?_eq :
    node.groupSpec? =
      if entry.field.isGroup then entry.field.group.map (·.spec entry.field.key entry.field.title)
      else none := by
  rw [made.group, LayoutEntry.visit, LayoutField.group?_toField]
  cases entry.field.isGroup with
  | false => rfl
  | true => cases entry.field.group <;> rfl

theorem Node.MadeOf.isGroup_eq : node.isGroup = entry.field.isGroup := by
  have spec := made.groupSpec?_eq
  cases grouped : entry.field.isGroup with
  | false =>
    rw [grouped] at spec
    cases node with
    | leaf label => rfl
    | group label name flatten children => cases spec
  | true =>
    obtain ⟨g, declared⟩ := Option.isSome_iff_exists.1 (Bool.and_eq_true_iff.1 grouped).1
    rw [grouped, declared] at spec
    cases node with
    | leaf label => cases spec
    | group label name flatten children => rfl

theorem Node.MadeOf.describedBy
    (keys : node.children.map (·.label.key) =
      (entry.visit.field.group?.elim [] (·.2)).map (·.spec.key))
    (selectors : ∀ child ∈ node.children,
      child.label.selector = node.label.selector ++ [child.label.key]) :
    node.DescribedBy entry where
  key := by
    rw [made.label_eq]
    rfl
  selector := by
    rw [made.label_eq]
    rfl
  title := by
    rw [made.label_eq]
    rfl
  defaultText := by
    rw [made.label_eq]
    rfl
  formatter := by
    rw [made.label_eq]
    rfl
  isGroup := by
    rw [made.isGroup_eq, LayoutField.isGroup, Bool.and_eq_true_iff, Option.isNone_iff_eq_none]
  name := by
    rintro label name flatten children rfl
    have spec := made.groupSpec?_eq
    split at spec
    next =>
      obtain ⟨g, declared, same⟩ := Option.map_eq_some_iff.1 spec.symm
      cases same
      exact ⟨g, declared, rfl, by rw [ite_not]⟩
    next => cases spec
  children := by
    have selector : node.label.selector = entry.selector := by
      rw [made.label_eq]
      rfl
    -- Selectors of children differ in their last key alone, so it is enough to know the keys.
    have below : node.children.map (·.label.selector) =
        (node.children.map (·.label.key)).map (entry.selector ++ [·]) := by
      rw [List.map_map, ← selector]
      exact List.map_congr_left selectors
    rw [below, keys, made.isGroup_eq, LayoutEntry.visit, LayoutField.group?_toField]
    cases grouped : entry.field.isGroup with
    | false => rfl
    | true =>
      obtain ⟨g, declared⟩ := Option.isSome_iff_exists.1 (Bool.and_eq_true_iff.1 grouped).1
      rw [declared, LayoutField.toFields_eq_map]
      simp only [Option.map_some, if_true, Option.elim_some, List.map_map]
      exact List.map_congr_left fun f _ =>
        congrArg (fun spec : FieldSpec => entry.selector ++ [spec.key]) f.spec_toField

end Described

section Layouts

variable {layout : Layout} {formatters : Registry} {schema : Schema}
  (built : Schema.build layout.descriptor formatters = .ok schema)

include built

theorem described_nodes : List.Forall₂ Node.DescribedBy schema.nodes layout.entries := by
  have tree := (Schema.build_eq_ok_iff.1 built).2
  have made := Schema.madeOf_visits built
  have keys : List.Forall₂ _ schema.nodes layout.descriptor.visits := tree.keys_children
  rw [Layout.visits_descriptor, List.forall₂_map_right_iff] at made keys
  refine List.forall₂_iff_zip.2 ⟨made.length_eq, fun {node entry} here => ?_⟩
  refine (List.forall₂_zip made here).describedBy (List.forall₂_zip keys here) fun child below => ?_
  exact tree.selector_of_child (List.of_mem_zip here).1 below

theorem described_leaves :
    List.Forall₂ (fun leaf entry => (Node.leaf leaf).DescribedBy entry) schema.leaves
      (layout.entries.filter (!·.field.isGroup)) := by
  rw [← @List.forall₂_map_left_iff _ _ _ Node.DescribedBy, Schema.leaves,
    ← Node.flatAll_filter_leaf]
  refine List.rel_filter (fun node entry described => ?_) (described_nodes built)
  show (!node.isGroup) = true ↔ (!entry.field.isGroup) = true
  rw [described.isGroup_eq]

/-- With nothing listed to show or to hide, all leaves are columns. -/
theorem leaves_of_columns :
    (TableView.ofDescriptor layout.descriptor ⟨{}, formatters⟩).columns.map (·.leaf) =
      schema.leaves := by
  rw [@TableView.ofDescriptor_ok layout.descriptor ⟨{}, formatters⟩ schema built,
    map_leaf_columns, List.filter_eq_self]
  exact fun leaf => Visibility.isShown_of_empty built

end Layouts

/-- A layout has a schema exactly if every format is there that is named by a field which is reached
    through groups. The nodes of the schema are these fields, one for each and in the same order: with
    the keys around it and its own as selector, with its title or else its key, with its default text
    or else none, and with its format. It is a group if the field has a group and no format, and the
    nodes in it are then the fields inside the field; else it is a leaf with nothing in it. The columns
    of a table that is told to show and to hide nothing are the fields that are leaves, in order. -/
theorem layout_describes_schema (layout : Layout) (formatters : Registry) :
    ((∃ schema, Schema.build layout.descriptor formatters = .ok schema) ↔
      ∀ entry ∈ layout.entries, ∀ id, entry.field.format = some id →
        formatters.contains id = true) ∧
    ∀ schema, Schema.build layout.descriptor formatters = .ok schema →
      List.Forall₂ Node.DescribedBy schema.nodes layout.entries ∧
      List.Forall₂ (fun column entry => (Node.leaf column.leaf).DescribedBy entry)
        (TableView.ofDescriptor layout.descriptor ⟨{}, formatters⟩).columns
        (layout.entries.filter fun entry => !entry.field.isGroup) := by
  refine ⟨?_, fun schema built => ⟨described_nodes built, ?_⟩⟩
  · rw [Schema.exists_build_eq_ok_iff, Layout.visits_descriptor, List.forall_mem_map]
    refine forall₂_congr fun entry _ => ?_
    rw [Visit.Resolved, LayoutEntry.visit, LayoutField.spec_toField]
    simp only [Registry.contains, Option.isSome_iff_exists, LayoutField.spec]
  · have leaves := described_leaves built
    rwa [← leaves_of_columns built, List.forall₂_map_left_iff] at leaves

namespace Sample

/-- Groups of all kinds: a flatten one, one without a name, one without a field, one that a format
    makes a leaf, and inside the second a record without a group. -/
def layout : Layout where
  fields := [
    { key := "name", title := some "NAME" },
    { key := "meta", group := some { flatten := true }, fields := [
      { key := "namespace", defaultText := some "default" }] },
    { key := "usage", title := some "USAGE", group := some {}, fields := [
      { key := "memory", format := some Formatter.byteSizeId },
      { key := "limits", fields := [{ key := "cpu" }] }] },
    { key := "spare", group := some { name := "Spare" } },
    { key := "age", format := some Formatter.durationId, group := some { name := "Age" }, fields := [
      { key := "seconds" }] }]

end Sample

/-- Of the ten fields two are inside leaves, and three are groups. -/
theorem layout_describes_schema_sample :
    ∃ schema, Schema.build Sample.layout.descriptor {} = .ok schema ∧
      List.Forall₂ Node.DescribedBy schema.nodes Sample.layout.entries ∧
      Sample.layout.entries.map LayoutEntry.selector =
        [["name"], ["meta"], ["meta", "namespace"], ["usage"], ["usage", "memory"],
          ["usage", "limits"], ["spare"], ["age"]] ∧
      (TableView.ofDescriptor Sample.layout.descriptor ⟨{}, {}⟩).columns.length = 5 := by
  obtain ⟨builds, described⟩ := layout_describes_schema Sample.layout {}
  obtain ⟨schema, built⟩ := builds.2 (by decide)
  obtain ⟨nodes, columns⟩ := described schema built
  exact ⟨schema, built, nodes, rfl, columns.length_eq⟩

end StatusReport
