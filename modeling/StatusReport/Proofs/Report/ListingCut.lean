import StatusReport.Layout.Basic
import StatusReport.Proofs.Lineage
import StatusReport.Proofs.Report.Agreement
import StatusReport.Proofs.Report.Refusal

/-! # Listings cut before a refusal

A listing writes its top-level fields one after the other, each with all of its lines or none. If a
formatter refuses below a field, what has been written are the lines of the fields before it. Those
are also all the lines of the descriptor that has only these fields: they have the same numbers
there, and the same of them are shown.

* `ListingFailure`: the first refusal in a listing.
* `DetailView.script_of_failure`: what a listing with a refusal writes.
* `Descriptor.firstFields`, `Layout.firstFields`: descriptions cut after some fields.
* `DetailView.script_firstFields`: what the listing of a cut descriptor writes.
-/

namespace StatusReport

/-! ## Refusals -/

/-- The first top-level node with a refusal below it, and the first shown leaf below it whose
    formatter refuses. -/
structure ListingFailure (view : DetailView) (r : Record) where
  before : List Node
  node : Node
  after : List Node
  roots_eq : view.roots = before ++ node :: after
  before_shown : ∀ n ∈ before, Shows (columnsOf view.visibility none n) view.formatters r
  row : RowFailure (columnsOf view.visibility none node) view.formatters r

namespace DetailView

section Fields

variable {visibility : Visibility} {formatters : Registry} {r : Record}

theorem ending_fieldScript (visibility : Visibility) (formatters : Registry) (r : Record)
    (node : Node) :
    (fieldScript visibility formatters r node).ending =
      (TableView.row (columnsOf visibility none node) formatters r).map fun _ => () := by
  rw [fieldScript]
  obtain ⟨e, linesFailed, rowFailed⟩ | ⟨lines, texts, linesMade, rowMade, -⟩ :=
    map_eq_map_cases (entries_linesOf visibility formatters r 0 none node)
  · rw [linesFailed, rowFailed]
    rfl
  · rw [linesMade, rowMade]
    rfl

theorem ending_fieldScript_of_shows {node : Node}
    (known : ∀ column ∈ columnsOf visibility none node, Known formatters column.leaf)
    (shown : Shows (columnsOf visibility none node) formatters r) :
    (fieldScript visibility formatters r node).ending = .ok () := by
  obtain ⟨texts, made⟩ := TableView.row_of_shows known shown
  rw [ending_fieldScript, made]
  rfl

theorem fieldScript_of_failure {node : Node}
    (known : ∀ column ∈ columnsOf visibility none node, Known formatters column.leaf)
    (failure : RowFailure (columnsOf visibility none node) formatters r) :
    fieldScript visibility formatters r node = ⟨[], .error failure.error⟩ := by
  -- The walks of the listing and of the table end in the same error.
  have failed := TableView.row_of_failure known failure
  obtain ⟨e, linesFailed, rowFailed⟩ | ⟨lines, texts, linesMade, rowMade, -⟩ :=
    map_eq_map_cases (entries_linesOf visibility formatters r 0 none node)
  · cases failed.symm.trans rowFailed
    rw [fieldScript, linesFailed]
    rfl
  · cases failed.symm.trans rowMade

end Fields

def AllKnown (view : DetailView) : Prop :=
  ∀ node ∈ view.roots, ∀ column ∈ columnsOf view.visibility none node,
    Known view.formatters column.leaf

section Failure

variable {view : DetailView} {r : Record}

theorem shows_or_failure (view : DetailView) (r : Record) :
    (∀ node ∈ view.roots, Shows (columnsOf view.visibility none node) view.formatters r) ∨
      Nonempty (ListingFailure view r) := by
  obtain all | ⟨before, node, after, split, earlier, here⟩ :=
    all_or_first (fun node => Shows (columnsOf view.visibility none node) view.formatters r)
      view.roots
  · exact .inl all
  · obtain ⟨row⟩ := (shows_or_rowFailure _ view.formatters r).resolve_left here
    exact .inr ⟨⟨before, node, after, split, earlier, row⟩⟩

theorem ending_script_of_shows (known : view.AllKnown)
    (shown : ∀ node ∈ view.roots, Shows (columnsOf view.visibility none node) view.formatters r) :
    (view.script r).ending = .ok () := by
  have ended : ∀ script ∈ view.roots.map (fieldScript view.visibility view.formatters r),
      script.ending = .ok () := by
    intro script hs
    obtain ⟨node, hn, rfl⟩ := List.mem_map.1 hs
    exact ending_fieldScript_of_shows (known node hn) (shown node hn)
  rw [script, Script.join_of_ok ended]

/-- A listing with a refusal writes the fields before it. -/
theorem script_of_failure (known : view.AllKnown) (failure : ListingFailure view r) :
    ∃ lines,
      Script.join (failure.before.map (fieldScript view.visibility view.formatters r)) =
        ⟨lines, .ok ()⟩ ∧
      view.script r = ⟨lines, .error failure.row.error⟩ := by
  have knownAll : ∀ node ∈ failure.before ++ failure.node :: failure.after,
      ∀ column ∈ columnsOf view.visibility none node, Known view.formatters column.leaf := by
    rw [← failure.roots_eq]
    exact known
  obtain ⟨knownBefore, knownRest⟩ := List.forall_mem_append.1 knownAll
  have ended : ∀ script ∈ failure.before.map (fieldScript view.visibility view.formatters r),
      script.ending = .ok () := by
    intro script hs
    obtain ⟨node, hn, rfl⟩ := List.mem_map.1 hs
    exact ending_fieldScript_of_shows (knownBefore node hn) (failure.before_shown node hn)
  have refused := fieldScript_of_failure (knownRest failure.node List.mem_cons_self) failure.row
  refine ⟨_, Script.join_of_ok ended, ?_⟩
  rw [script, failure.roots_eq, List.map_append, List.map_cons, refused,
    Script.join_of_error ended rfl, List.append_nil]

end Failure

theorem allKnown_of_build {descriptor : Descriptor} {options : ViewOptions} {schema : Schema}
    (built : Schema.build descriptor options.formatters = .ok schema) :
    (ofDescriptor descriptor options).AllKnown := by
  rw [ofDescriptor_ok built]
  intro node hn column hc
  have leaf := (mem_columnsOf hc).1
  exact (Schema.build_eq_ok_iff.1 built).2.known column.leaf (Node.mem_leavesOf hn leaf)

theorem exists_failure_of_error {view : DetailView} {r : Record} {e : ViewError}
    (known : view.AllKnown) (ended : (view.script r).ending = .error e) :
    ∃ failure : ListingFailure view r, e = failure.row.error := by
  obtain all | ⟨⟨failure⟩⟩ := shows_or_failure view r
  · rw [ending_script_of_shows known all] at ended
    cases ended
  · obtain ⟨lines, -, script⟩ := script_of_failure known failure
    rw [script] at ended
    exact ⟨failure, (Except.error.inj ended).symm⟩

theorem described (descriptor : Descriptor) (options : ViewOptions) :
    Report.Described descriptor options (ofDescriptor descriptor options) where
  failed e built := by
    rw [ofDescriptor_error built]
    rfl
  fresh schema built := by
    rw [ofDescriptor_ok built]
    rfl
  refused schema built r e ended := by
    obtain ⟨failure, rfl⟩ := exists_failure_of_error (allKnown_of_build built) ended
    exact ⟨_, _, rfl⟩

end DetailView

/-! ## Cut descriptions -/

def Descriptor.firstFields (descriptor : Descriptor) (count : Nat) : Descriptor :=
  { descriptor with fields := descriptor.fields.take count }

def Layout.firstFields (layout : Layout) (count : Nat) : Layout :=
  { layout with fields := layout.fields.take count }

theorem Layout.descriptor_firstFields (layout : Layout) (count : Nat) :
    (layout.firstFields count).descriptor = layout.descriptor.firstFields count := by
  simp only [descriptor, firstFields, Descriptor.firstFields, LayoutField.toFields_eq_map,
    List.map_take]

theorem ListingFailure.key_eq {layout : Layout} {options : ViewOptions} {schema : Schema}
    {r : Record} (failure : ListingFailure (.ofDescriptor layout.descriptor options) r)
    (built : Schema.build layout.descriptor options.formatters = .ok schema) :
    (layout.fields[failure.before.length]?).map (·.key) = some failure.node.label.key := by
  have keys := (Schema.build_eq_ok_iff.1 built).2.keys
  have roots : schema.roots = failure.before ++ failure.node :: failure.after := by
    rw [← failure.roots_eq, DetailView.ofDescriptor_ok built]
  have fields : layout.descriptor.fields.map (·.spec.key) = layout.fields.map (·.key) := by
    simp only [Layout.descriptor, LayoutField.toFields_eq_map, List.map_map]
    exact List.map_congr_left fun f _ => congrArg FieldSpec.key f.spec_toField
  rw [← List.getElem?_map, ← fields, ← keys, roots]
  simp

namespace DetailView

/-- The listing of the first fields writes them as that of all fields does. -/
theorem script_firstFields {descriptor : Descriptor} {options : ViewOptions} {schema : Schema}
    (built : Schema.build descriptor options.formatters = .ok schema) (count : Nat) (r : Record) :
    let view := ofDescriptor descriptor options
    let cut := ofDescriptor (descriptor.firstFields count) options
    cut.error = none ∧
      cut.script r =
        .join ((view.roots.take count).map (fieldScript view.visibility view.formatters r)) := by
  obtain ⟨name, tree⟩ := Schema.build_eq_ok_iff.1 built
  obtain ⟨middle, cutTree⟩ := tree.take count
  have cutBuilt : Schema.build (descriptor.firstFields count) options.formatters =
      .ok ⟨schema.name, schema.roots.take count, middle⟩ :=
    Schema.build_eq_ok_iff.2 ⟨name, cutTree⟩
  rw [ofDescriptor_ok built, ofDescriptor_ok cutBuilt]
  refine ⟨rfl, congrArg Script.join (fieldScripts_congr fun leaf member => ⟨?_, fun _ => rfl⟩)⟩
  -- The first nodes are the same in both trees, and both visibilities follow the directive there.
  have whole := (Visibility.followsAll_resolve built options.directive).take count
  have cut := Visibility.followsAll_resolve cutBuilt options.directive
  exact cut.agree whole (.leaf leaf) (Node.leaf_mem_flatAll member)

end DetailView

end StatusReport
