import StatusReport.Proofs.Report.ShownColumns

/-! # Tables that show part of others

A directive is within another one if it hides all that the other one hides and shows nothing that
the other one does not. Its tables then have some of the columns of the other's tables, and the same
texts in them. More paths to hide make a directive narrower. One more path to show makes it wider
unless it is what makes reports selective: a path without a dot, where there was none before.

* `Directive.Within`: a directive that shows no more than another one.
* `TableView.PartOf`: a table that shows part of another one.
* `TableView.partOf_of_within`: directives within others make parts of tables.
* `hiding_removes_showing_adds`: more paths to hide, and more to show.
-/

namespace StatusReport

/-! ## Directives -/

namespace Directive

/-- One directive shows nothing that another one does not, wherever both are followed. -/
structure Within (d e : Directive) : Prop where
  default : d.rootDefault = true → e.rootDefault = true
  shown : ∀ path ∈ d.showPaths, path ∈ e.showPaths
  hidden : ∀ path ∈ e.hidePaths, path ∈ d.hidePaths

namespace Within

variable {d e f : Directive}

theorem refl (d : Directive) : d.Within d := ⟨id, fun _ h => h, fun _ h => h⟩

theorem trans (h : d.Within e) (h' : e.Within f) : d.Within f where
  default root := h'.default (h.default root)
  shown path listed := h'.shown path (h.shown path listed)
  hidden path listed := h.hidden path (h'.hidden path listed)

theorem shows (h : d.Within e) {address : String} {inherited inherited' : Bool}
    (inherits : inherited = true → inherited' = true) (shown : d.shows address inherited = true) :
    e.shows address inherited' = true := by
  rw [Directive.shows] at shown ⊢
  split at shown
  · cases shown
  · rename_i visible
    rw [if_neg fun listed => visible (h.hidden address listed)]
    split at shown
    · rename_i listed
      rw [if_pos (h.shown address listed)]
    · rw [inherits shown, ite_self]

theorem decides (h : d.Within e) {lineage : List Node} (shown : d.decides lineage = true) :
    e.decides lineage = true := by
  induction lineage with
  | nil => exact h.default shown
  | cons node around ih =>
    rw [decides_cons] at shown ⊢
    exact h.shows ih shown

theorem addHidden (d : Directive) (path : String) : (d.addHidden path).Within d where
  default root := root
  shown _ h := h
  hidden _ h := PathSet.mem_insert.2 (.inr h)

theorem hideAll (d : Directive) : d.hideAll.Within d where
  default root := by simp [rootDefault, Directive.hideAll] at root
  shown _ h := h
  hidden _ h := h

theorem rootDefault_addShown {path : String} (selective : (d.addShown path).rootDefault = false) :
    d.rootDefault = false ∨ '.' ∉ path.toList := by
  rw [rootDefault_eq_false_iff] at selective ⊢
  obtain all | ⟨listed, member, undotted⟩ := selective
  · exact .inl (.inl all)
  · obtain rfl | member := PathSet.mem_insert.1 member
    · exact .inr undotted
    · exact .inl (.inr ⟨listed, member, undotted⟩)

/-- One more path to show, unless it is what makes reports selective. -/
theorem addShown {path : String} (unselective : '.' ∈ path.toList ∨ d.rootDefault = false) :
    d.Within (d.addShown path) where
  default root := by
    cases after : (d.addShown path).rootDefault with
    | true => rfl
    | false =>
      have before := rootDefault_addShown after
      rw [root] at unselective before
      grind
  shown _ h := PathSet.mem_insert.2 (.inr h)
  hidden _ h := h

end Within

end Directive

/-! ## Columns -/

mutual

theorem columnsOf_filter {v w : Visibility} (around : Option ColumnGroup) {node : Node}
    (fewer : ∀ leaf ∈ node.leaves, v.isShown leaf.id = true → w.isShown leaf.id = true) :
    columnsOf v around node = (columnsOf w around node).filter (v.isShown ·.leaf.id) := by
  cases node with
  | leaf label =>
    rw [Node.leaves, List.forall_mem_singleton] at fewer
    rw [columnsOf, columnsOf]
    cases shown : v.isShown label.id with
    | true => simp [fewer shown, shown]
    | false => cases w.isShown label.id <;> simp [shown]
  | group label name flatten children =>
    -- Both walks hand down the same box, shown or not.
    rw [columnsOf, columnsOf]
    exact columnsOfAll_filter _ fewer

theorem columnsOfAll_filter {v w : Visibility} (around : Option ColumnGroup) {nodes : List Node}
    (fewer : ∀ leaf ∈ Node.leavesOf nodes, v.isShown leaf.id = true → w.isShown leaf.id = true) :
    columnsOfAll v around nodes = (columnsOfAll w around nodes).filter (v.isShown ·.leaf.id) := by
  cases nodes with
  | nil => rfl
  | cons node rest =>
    rw [Node.leavesOf, List.forall_mem_append] at fewer
    rw [columnsOfAll, columnsOfAll, List.filter_append, ← columnsOf_filter around fewer.1,
      ← columnsOfAll_filter around fewer.2]

end

theorem columns_filter {schema : Schema} {v w : Visibility}
    (fewer : ∀ leaf ∈ schema.leaves, v.isShown leaf.id = true → w.isShown leaf.id = true) :
    columns schema v = (columns schema w).filter (v.isShown ·.leaf.id) :=
  columnsOfAll_filter none fewer

def Schema.everyColumn (schema : Schema) : List Column := columns schema (.resolve schema {})

/-- What is shown selects columns, and leaves them as they are. -/
theorem columns_eq_filter {descriptor : Descriptor} {formatters : Registry} {schema : Schema}
    (built : Schema.build descriptor formatters = .ok schema) (visibility : Visibility) :
    columns schema visibility = schema.everyColumn.filter (visibility.isShown ·.leaf.id) :=
  columns_filter fun _ member _ => Visibility.isShown_of_empty built member

/-! ## Tables -/

namespace TableView

def keptTexts (keep : Column → Bool) (columns : List Column) (texts : List String) : List String :=
  ((columns.zip texts).filter fun cell => keep cell.1).map (·.2)

theorem row_filter {columns : List Column} {formatters : Registry} {r : Record}
    {texts : List String} (made : row columns formatters r = .ok texts) (keep : Column → Bool) :
    row (columns.filter keep) formatters r = .ok (keptTexts keep columns texts) := by
  induction columns generalizing texts with
  | nil => rfl
  | cons column rest ih =>
    obtain ⟨text, others, first, more, rfl⟩ := row_cons_eq_ok_iff.1 made
    cases kept : keep column with
    | true =>
      rw [List.filter_cons_of_pos kept, row_cons_eq_ok_iff]
      exact ⟨text, _, first, ih more, by simp [keptTexts, kept]⟩
    | false =>
      rw [List.filter_cons_of_neg (by simp [kept]), ih more]
      simp [keptTexts, kept]

/-- A table shows some columns of another one, and for every record that the other one has a row
    for, the texts of these columns. -/
def PartOf (part whole : TableView) : Prop :=
  ∃ keep : Column → Bool, part.columns = whole.columns.filter keep ∧
    ∀ r texts, row whole.columns whole.formatters r = .ok texts →
      row part.columns part.formatters r = .ok (keptTexts keep whole.columns texts)

theorem partOf_of_within (descriptor : Descriptor) {narrow wide : ViewOptions}
    (formatters : narrow.formatters = wide.formatters)
    (within : narrow.directive.Within wide.directive) :
    (ofDescriptor descriptor narrow).PartOf (ofDescriptor descriptor wide) := by
  cases built : Schema.build descriptor wide.formatters with
  | error e =>
    rw [ofDescriptor_error built, ofDescriptor_error (formatters ▸ built)]
    refine ⟨fun _ => true, rfl, fun r texts made => ?_⟩
    cases made
    rfl
  | ok schema =>
    rw [ofDescriptor_ok built, ofDescriptor_ok (formatters ▸ built)]
    -- Both directives decide on one tree, so they are compared leaf by leaf, at its lineage.
    have fewer : ∀ leaf ∈ schema.leaves,
        (Visibility.resolve schema narrow.directive).isShown leaf.id = true →
        (Visibility.resolve schema wide.directive).isShown leaf.id = true := by
      intro leaf member shown
      obtain ⟨around, lineage⟩ := lineage_of_leaf member
      have narrowly := Visibility.isShown_of_lineage
        (Visibility.followsAll_resolve built narrow.directive) lineage
      have widely := Visibility.isShown_of_lineage
        (Visibility.followsAll_resolve built wide.directive) lineage
      exact widely.trans (within.decides (narrowly.symm.trans shown))
    rw [columns_filter fewer, formatters]
    exact ⟨_, rfl, fun r texts made => row_filter made _⟩

end TableView

/-! ## More to hide and more to show -/

theorem ViewOptions.foldl_addHidden (hidden : List String) (options : ViewOptions) :
    (hidden.foldl addHidden options).formatters = options.formatters ∧
      (hidden.foldl addHidden options).directive.Within options.directive := by
  induction hidden generalizing options with
  | nil => exact ⟨rfl, .refl _⟩
  | cons path rest ih =>
    obtain ⟨formatters, within⟩ := ih (options.addHidden path)
    exact ⟨formatters, within.trans (.addHidden options.directive path)⟩

/-- With more paths to hide, and with everything hidden by default or not, a table shows part of what
    it did. It shows part of what it does with one more path to show, if that has a dot or if what no
    list decides was hidden already. -/
theorem hiding_removes_showing_adds (descriptor : Descriptor) (options : ViewOptions) :
    let table := TableView.ofDescriptor descriptor
    (∀ hidden : List String,
      (table (hidden.foldl ViewOptions.addHidden options)).PartOf (table options) ∧
      (table (hidden.foldl ViewOptions.addHidden options).hideAll).PartOf (table options)) ∧
    (∀ path : String, ('.' ∈ path.toList ∨ options.directive.rootDefault = false) →
      (table options).PartOf (table (options.addShown path))) := by
  intro table
  refine ⟨fun hidden => ?_, fun path unselective => ?_⟩
  · obtain ⟨formatters, within⟩ := ViewOptions.foldl_addHidden hidden options
    exact ⟨TableView.partOf_of_within descriptor formatters within,
      TableView.partOf_of_within descriptor formatters (.trans (.hideAll _) within)⟩
  · exact TableView.partOf_of_within descriptor rfl (.addShown unselective)

/-- The name of a job is part of its name and its memory, if all else is hidden. -/
theorem hiding_removes_showing_adds_jobs :
    let options := ({} : ViewOptions).hideAll.addShown "name"
    options.directive.rootDefault = false ∧
      (TableView.ofDescriptor Sample.jobs options).PartOf
        (TableView.ofDescriptor Sample.jobs (options.addShown "memory")) := by
  intro options
  have selective : options.directive.rootDefault = false := by decide
  exact ⟨selective, (hiding_removes_showing_adds Sample.jobs options).2 "memory" (.inr selective)⟩

/-- The first path without a dot makes reports selective, so there can be fewer columns than before. -/
example :
    (TableView.ofDescriptor Sample.jobs {}).columns.length = 3 ∧
      (TableView.ofDescriptor Sample.jobs (({} : ViewOptions).addShown "memory")).columns.length = 1 := by
  decide

end StatusReport
