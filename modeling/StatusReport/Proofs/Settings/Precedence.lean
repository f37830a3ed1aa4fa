import StatusReport.Proofs.Report.ShownColumns
import StatusReport.Report.Detail
import StatusReport.Settings.Basic

/-! # Settings and flags

What a request shows and hides is joined with what the settings show and hide, and then hiding beats
showing, whichever of the two it comes from. So a request shows what the settings do not list, and
hides what they show, but what the settings hide stays hidden.

* `Settings.options_eq`: the options of a request.
* `Settings.flags_lose_to_hidden_settings`: what they show.
* `Settings.shown_flag_stays_hidden`: an address that is hidden by the settings and shown by a flag.
-/

namespace StatusReport

namespace ViewOptions

theorem foldl_addShown_eq (paths : List String) (o : ViewOptions) :
    paths.foldl addShown o =
      ⟨{ o.directive with showPaths := o.directive.showPaths.insertAll paths }, o.formatters⟩ := by
  induction paths generalizing o with
  | nil => rfl
  | cons path rest ih => exact ih (o.addShown path)

theorem foldl_addHidden_eq (paths : List String) (o : ViewOptions) :
    paths.foldl addHidden o =
      ⟨{ o.directive with hidePaths := o.directive.hidePaths.insertAll paths }, o.formatters⟩ := by
  induction paths generalizing o with
  | nil => rfl
  | cons path rest ih => exact ih (o.addHidden path)

end ViewOptions

namespace Settings

def joined (settings : Settings) (request : VisibilityRequest) : Directive where
  showPaths := (PathSet.ofList settings.visibility.shown).insertAll request.shown
  hidePaths := (PathSet.ofList settings.visibility.hidden).insertAll request.hidden
  hideAllByDefault := settings.visibility.hideAllByDefault || request.hideAll

section Joined

variable {settings : Settings} {request : VisibilityRequest} {options : ViewOptions}

theorem options_eq (made : settings.options request = .ok options) :
    settings.registry = .ok options.formatters ∧ options.directive = settings.joined request := by
  rw [Settings.options] at made
  cases registry : settings.registry with
  | error e =>
    rw [registry] at made
    cases made
  | ok r =>
    rw [registry] at made
    cases made
    rw [VisibilityRequest.apply, ViewOptions.foldl_addShown_eq, ViewOptions.foldl_addHidden_eq,
      joined]
    cases request.hideAll
    · exact ⟨rfl, by rw [Bool.or_false]; rfl⟩
    · exact ⟨rfl, by rw [Bool.or_true]; rfl⟩

theorem mem_showPaths_joined {address : String} :
    address ∈ (settings.joined request).showPaths ↔
      address ∈ settings.visibility.shown ++ request.shown := by
  rw [joined, PathSet.mem_insertAll, PathSet.mem_ofList, List.mem_append, or_comm]

theorem mem_hidePaths_joined {address : String} :
    address ∈ (settings.joined request).hidePaths ↔
      address ∈ settings.visibility.hidden ++ request.hidden := by
  rw [joined, PathSet.mem_insertAll, PathSet.mem_ofList, List.mem_append, or_comm]

end Joined

def showsUnlisted (settings : Settings) (request : VisibilityRequest) : Bool :=
  !(settings.visibility.hideAllByDefault || request.hideAll) &&
    !(settings.visibility.shown ++ request.shown).any Directive.isUndotted

theorem rootDefault_joined (settings : Settings) (request : VisibilityRequest) :
    (settings.joined request).rootDefault = settings.showsUnlisted request := by
  rw [Directive.rootDefault, showsUnlisted]
  congr 2
  rw [Bool.eq_iff_iff, List.any_eq_true, List.any_eq_true]
  exact exists_congr fun path => and_congr_left fun _ => mem_showPaths_joined

theorem isShown_of_joined {settings : Settings} {request : VisibilityRequest}
    {options : ViewOptions} (made : settings.options request = .ok options)
    {v : Visibility} {roots : List Node}
    (follows : v.FollowsAll options.directive options.directive.rootDefault roots)
    (node : Node) (around : List Node) (lineage : Lineage roots (node :: around)) :
    v.isShown node.label.id =
      if node.label.address ∈ settings.visibility.hidden ++ request.hidden then false
      else if node.label.address ∈ settings.visibility.shown ++ request.shown then true
      else around.head?.elim (settings.showsUnlisted request) (v.isShown ·.label.id) := by
  have directive := (options_eq made).2
  have outside : options.directive.decides around =
      around.head?.elim (settings.showsUnlisted request) (v.isShown ·.label.id) := by
    cases lineage with
    | root top =>
      rw [directive, ← rootDefault_joined]
      rfl
    | inner above child => exact (Visibility.isShown_of_lineage follows above).symm
  rw [Visibility.isShown_of_lineage follows lineage, Directive.decides_cons, outside, directive,
    Directive.shows]
  simp only [mem_showPaths_joined, mem_hidePaths_joined]

/-- A field that a request shows and does not hide is visible exactly if the settings do not hide
    it: flags do not win over what the settings hide. Every node is hidden if the settings or the
    request hide it, else shown if one of them shows it, else as the node around it. -/
theorem flags_lose_to_hidden_settings {settings : Settings} {request : VisibilityRequest}
    {descriptor : Descriptor} {options : ViewOptions} {schema : Schema}
    (made : settings.options request = .ok options)
    (built : Schema.build descriptor options.formatters = .ok schema) :
    let table := TableView.ofDescriptor descriptor options
    let listing := DetailView.ofDescriptor descriptor options
    (∀ node ∈ schema.nodes, node.label.address ∈ request.shown →
      node.label.address ∉ request.hidden →
        (listing.visibility.isShown node.label.id = true ↔
          node.label.address ∉ settings.visibility.hidden)) ∧
    (∀ leaf ∈ schema.leaves, leaf.address ∈ request.shown → leaf.address ∉ request.hidden →
      (leaf ∈ table.columns.map (·.leaf) ↔ leaf.address ∉ settings.visibility.hidden)) ∧
    ∀ node around, Lineage schema.roots (node :: around) →
      listing.visibility.isShown node.label.id =
        if node.label.address ∈ settings.visibility.hidden ++ request.hidden then false
        else if node.label.address ∈ settings.visibility.shown ++ request.shown then true
        else around.head?.elim (settings.showsUnlisted request)
          (listing.visibility.isShown ·.label.id) := by
  intro table listing
  have visibility : listing.visibility = .resolve schema options.directive := by
    rw [show listing = _ from DetailView.ofDescriptor_ok built]
  have columns : table.columns.map (·.leaf) =
      schema.leaves.filter (listing.visibility.isShown ·.id) := by
    rw [visibility, show table = _ from TableView.ofDescriptor_ok built]
    exact map_leaf_columns schema _
  have joined := isShown_of_joined made (Visibility.followsAll_resolve built options.directive)
  rw [← visibility] at joined
  -- Nothing about the nodes around matters for a node that is listed itself.
  have flagged : ∀ node ∈ schema.nodes, node.label.address ∈ request.shown →
      node.label.address ∉ request.hidden →
        (listing.visibility.isShown node.label.id = true ↔
          node.label.address ∉ settings.visibility.hidden) := by
    intro node member shown unhidden
    obtain ⟨around, lineage⟩ := mem_nodes_iff_lineage.1 member
    rw [joined node around lineage]
    simp [shown, unhidden]
  refine ⟨flagged, fun leaf member shown unhidden => ?_, joined⟩
  rw [columns, List.mem_filter, and_iff_right member]
  exact flagged (.leaf leaf) (Node.leaf_mem_flatAll member) shown unhidden

/-- Settings that hide everything but the name do not hide the memory that a flag shows, nor does
    the group around it that they hide. -/
theorem flags_lose_to_hidden_settings_jobs :
    let settings : Settings :=
      { visibility := { shown := ["name"], hidden := ["usage"], hideAllByDefault := true } }
    let request : VisibilityRequest := { shown := ["memory"] }
    ∃ options, settings.options request = .ok options ∧
      Schema.build Sample.jobs options.formatters = .ok Sample.schema ∧
      Sample.memoryLeaf ∈ (TableView.ofDescriptor Sample.jobs options).columns.map (·.leaf) := by
  intro settings request
  have made : ∃ options, settings.options request = .ok options ∧
      Schema.build Sample.jobs options.formatters = .ok Sample.schema := ⟨_, rfl, rfl⟩
  obtain ⟨options, made, built⟩ := made
  obtain ⟨-, columns, -⟩ := flags_lose_to_hidden_settings made built
  have member : Sample.memoryLeaf ∈ Sample.schema.leaves := by decide
  exact ⟨options, made, built, (columns _ member (by decide) (by decide)).2 (by decide)⟩

/-- The memory that a flag shows is not visible if the settings hide it, and as a flag shows it
    alone, nothing is. -/
theorem shown_flag_stays_hidden :
    let settings : Settings := { visibility := { hidden := ["memory"] } }
    let request : VisibilityRequest := { shown := ["memory"] }
    ∃ options, settings.options request = .ok options ∧
      Schema.build Sample.jobs options.formatters = .ok Sample.schema ∧
      Node.leaf Sample.memoryLeaf ∈ Sample.schema.nodes ∧
      Sample.memoryLeaf.address ∈ request.shown ∧ Sample.memoryLeaf.address ∉ request.hidden ∧
      (DetailView.ofDescriptor Sample.jobs options).visibility.isShown Sample.memoryLeaf.id = false ∧
      (TableView.ofDescriptor Sample.jobs options).columns = [] :=
  ⟨_, rfl, rfl, Node.leaf_mem_flatAll (by decide), by decide, by decide, rfl, rfl⟩

end Settings

end StatusReport
