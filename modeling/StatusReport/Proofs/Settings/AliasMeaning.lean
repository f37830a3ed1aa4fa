import StatusReport.Command.Run

/-! # What further names mean

Further names are added in ascending order, each as what its target means at that moment. So a
target that is a smaller further name means what that name means, and any other target, the name
itself and larger names included, is looked up among the built-in formatters. A table is refused at
its smallest name that means nothing.

* `AliasTable.meaning`: what a further name means.
* `AliasTable.Resolved`: a registry that has been given the first names of a table.
* `AliasTable.resolveFrom_cases`: what giving it the others comes to.
* `Settings.registry_by_meaning`: the formatters of settings.
-/

namespace StatusReport

namespace AliasTable

variable {t : AliasTable}

/-! ## Meanings -/

theorem length_below_lt {names : List String} {name target : String} (member : target ∈ names)
    (below : target < name) :
    (names.filter (· < target)).length < (names.filter (· < name)).length := by
  have nested : names.filter (· < target) = (names.filter (· < name)).filter (· < target) := by
    rw [List.filter_filter]
    refine List.filter_congr fun other _ => ?_
    by_cases h : other < target
    · simp [h, String.lt_trans h below]
    · simp [h]
  rw [nested, List.length_filter_lt_length_iff_exists]
  exact ⟨target, List.mem_filter.2 ⟨member, by simpa using below⟩, by simp⟩

/-- What a further name means: what its target means, if that is a smaller further name, and the
    built-in formatter of that name otherwise. -/
def meaning (t : AliasTable) (name : String) : Option Formatter :=
  match t.get? name with
  | none => none
  | some target =>
    if target ∈ t.names ∧ target < name then t.meaning target
    else Entries.get? target Registry.builtins
termination_by (t.names.filter (· < name)).length
decreasing_by
  -- Fewer names are below the target than below the name.
  rename_i smaller
  exact length_below_lt smaller.1 smaller.2

theorem meaning_of_target {name target : String} (stands : t.get? name = some target) :
    t.meaning name =
      if target ∈ t.names ∧ target < name then t.meaning target
      else Entries.get? target Registry.builtins := by
  rw [meaning, stands]

/-! ## Names one after the other -/

/-- A registry that has been given names of a table: they have their meaning, and all else is
    built in. -/
structure Resolved (t : AliasTable) (names : List String) (r : Registry) : Prop where
  meant : ∀ name ∈ names, (t.meaning name).isSome
  given : ∀ name ∈ names, r.get? name = t.meaning name
  others : ∀ id ∉ names, r.get? id = Entries.get? id Registry.builtins

theorem resolved_empty (t : AliasTable) : Resolved t [] .empty where
  meant _ member := nomatch member
  given _ member := nomatch member
  others _ _ := rfl

section Step

variable {before after : Entries String} {name target : String}

theorem names_of_split (split : t.entries = before ++ (name, target) :: after) :
    t.names = before.keys ++ name :: after.keys := by
  rw [names, split, Entries.keys, List.map_append, List.map_cons]
  rfl

theorem ordered_of_split (split : t.entries = before ++ (name, target) :: after) :
    (∀ smaller ∈ before.keys, smaller < name) ∧ ∀ larger ∈ after.keys, name < larger := by
  have sorted : t.names.Pairwise (· < ·) := t.sorted
  rw [names_of_split split, List.pairwise_append, List.pairwise_cons] at sorted
  obtain ⟨-, ⟨larger, -⟩, smaller⟩ := sorted
  exact ⟨fun other member => smaller other member name List.mem_cons_self, larger⟩

theorem get?_of_split (split : t.entries = before ++ (name, target) :: after) :
    t.get? name = some target := by
  have fresh : name ∉ before.keys := fun member =>
    String.lt_irrefl name ((ordered_of_split split).1 name member)
  rw [get?, split, Entries.get?_append, Entries.get?_eq_none_iff.2 fresh]
  simp [Entries.get?]

theorem mem_before_iff (split : t.entries = before ++ (name, target) :: after) (other : String) :
    other ∈ before.keys ↔ other ∈ t.names ∧ other < name := by
  obtain ⟨smaller, larger⟩ := ordered_of_split split
  rw [names_of_split split, List.mem_append, List.mem_cons]
  constructor
  · intro member
    exact ⟨.inl member, smaller other member⟩
  · rintro ⟨here | rfl | member, below⟩
    · exact here
    · exact absurd below (String.lt_irrefl _)
    · exact absurd (String.lt_trans below (larger other member)) (String.lt_irrefl _)

/-- What the target of the next name means by then is what the name means. -/
theorem Resolved.get?_target {r : Registry}
    (split : t.entries = before ++ (name, target) :: after)
    (resolved : Resolved t before.keys r) : r.get? target = t.meaning name := by
  rw [meaning_of_target (get?_of_split split)]
  by_cases smaller : target ∈ t.names ∧ target < name
  · rw [if_pos smaller]
    exact resolved.given target ((mem_before_iff split target).2 smaller)
  · rw [if_neg smaller]
    exact resolved.others target fun member => smaller ((mem_before_iff split target).1 member)

theorem Resolved.insert {r : Registry} {f : Formatter} {names : List String}
    (resolved : Resolved t names r) (means : t.meaning name = some f) :
    Resolved t (names ++ [name]) (r.insert name f) := by
  constructor
  · rw [List.forall_mem_append, List.forall_mem_singleton]
    exact ⟨resolved.meant, by rw [means]; rfl⟩
  · intro other member
    by_cases same : other = name
    · rw [same, Registry.get?_insert_self, means]
    · have earlier : other ∈ names := by simpa [same] using member
      rw [Registry.get?_insert_of_ne _ same, resolved.given other earlier]
  · intro id absent
    simp only [List.mem_append, List.mem_singleton, not_or] at absent
    rw [Registry.get?_insert_of_ne _ absent.2, resolved.others id absent.1]

end Step

/-- The smallest name of a table that means nothing, and what it stands for. -/
structure Meaningless (t : AliasTable) (name target : String) : Prop where
  stands : t.get? name = some target
  nothing : t.meaning name = none
  smallest : ∀ smaller ∈ t.names, smaller < name → (t.meaning smaller).isSome

theorem Meaningless.member {name target : String} (h : Meaningless t name target) :
    name ∈ t.names := by
  rw [names, ← Entries.isSome_get?, show Entries.get? name t.entries = _ from h.stands]
  rfl

/-- Given the names before, the registry is given the others, or there is a smallest one that means
    nothing. -/
theorem resolveFrom_cases {before rest : Entries String} {r : Registry}
    (split : t.entries = before ++ rest) (resolved : Resolved t before.keys r) :
    (∃ made, resolveFrom rest r = .ok made ∧ Resolved t t.names made) ∨
      ∃ name target, resolveFrom rest r = .error (.unknownFormatter name target) ∧
        Meaningless t name target := by
  induction rest generalizing before r with
  | nil =>
    rw [List.append_nil] at split
    rw [← split] at resolved
    exact .inl ⟨r, rfl, resolved⟩
  | cons entry rest ih =>
    obtain ⟨name, target⟩ := entry
    -- The registry so far has the meaning of all smaller names, so it decides about this one.
    have found := resolved.get?_target split
    cases means : t.meaning name with
    | none =>
      rw [means] at found
      refine .inr ⟨name, target, ?_, get?_of_split split, means, fun smaller member below => ?_⟩
      · rw [resolveFrom, Registry.withAlias, found]
      · exact resolved.meant smaller ((mem_before_iff split smaller).2 ⟨member, below⟩)
    | some f =>
      rw [means] at found
      have step : resolveFrom ((name, target) :: rest) r = resolveFrom rest (r.insert name f) := by
        rw [resolveFrom, Registry.withAlias, found]
      have next := resolved.insert means
      rw [show before.keys ++ [name] = Entries.keys (before ++ [(name, target)]) by
        simp [Entries.keys]] at next
      rw [step]
      exact ih (by rw [split, List.append_assoc]; rfl) next

theorem resolve_cases (t : AliasTable) :
    (∃ r, t.resolve .empty = .ok r ∧ Resolved t t.names r) ∨
      ∃ name target, t.resolve .empty = .error (.unknownFormatter name target) ∧
        Meaningless t name target := by
  have split : t.entries = [] ++ t.entries := rfl
  exact resolveFrom_cases split (resolved_empty t)

theorem Resolved.contains_iff {r : Registry} (resolved : Resolved t t.names r) (id : String) :
    r.contains id = true ↔ id ∈ Registry.builtinIds ++ t.names := by
  rw [Registry.contains, List.mem_append]
  by_cases given : id ∈ t.names
  · rw [resolved.given id given]
    exact ⟨fun _ => .inr given, fun _ => resolved.meant id given⟩
  · rw [resolved.others id given, Entries.isSome_get?]
    exact ⟨.inl, fun known => known.resolve_right given⟩

end AliasTable

namespace Settings

open AliasTable (Meaningless)

/-- The further names of settings are accepted exactly if each of them means something. Then each
    stands for what it means, any other name for what is built in under it, and the names that
    stand for something are those that a check lists. Otherwise the error names the smallest one
    that means nothing, with its target. -/
theorem registry_by_meaning (s : Settings) :
    let t := s.aliases
    let ids := Registry.builtinIds ++ t.names
    ((∃ r, s.registry = .ok r) ↔ ∀ name ∈ t.names, (t.meaning name).isSome) ∧
      (∀ r, s.registry = .ok r →
        (∀ name ∈ t.names, r.get? name = t.meaning name) ∧
        (∀ id ∉ t.names, r.get? id = Entries.get? id Registry.builtins) ∧
        ∀ id, r.contains id = true ↔ id ∈ ids) ∧
      (∀ e, s.registry = .error e →
        ∃ name target, Meaningless t name target ∧
          e = .badAlias (.unknownFormatter name target)) ∧
      ∀ color name columns, (Command.summary s color name columns).getLast? =
        some ("  Available formatters: " ++ ", ".intercalate ids) := by
  intro t ids
  -- Either all names mean something, or the first one that does not ends it.
  obtain ⟨r, made, resolved⟩ | ⟨name, target, failed, nothing⟩ := t.resolve_cases
  · have registry : s.registry = .ok r := by rw [Settings.registry, made]
    rw [registry]
    refine ⟨⟨fun _ => resolved.meant, fun _ => ⟨r, rfl⟩⟩, ?_, ?_, fun _ _ _ => rfl⟩
    · rintro _ ⟨⟩
      exact ⟨resolved.given, resolved.others, resolved.contains_iff⟩
    · rintro _ ⟨⟩
  · have registry : s.registry = .error (.badAlias (.unknownFormatter name target)) := by
      rw [Settings.registry, failed]
    rw [registry]
    refine ⟨⟨?_, fun all => ?_⟩, ?_, ?_, fun _ _ _ => rfl⟩
    · rintro ⟨_, ⟨⟩⟩
    · have means := all name nothing.member
      rw [nothing.nothing] at means
      cases means
    · rintro _ ⟨⟩
    · rintro _ ⟨⟩
      exact ⟨name, target, nothing, rfl⟩

/-- A chain of names through a built-in one that another name hides, and a chain the wrong way. -/
theorem registry_by_meaning_chains :
    let chained : Settings :=
      { aliases := .ofList [("duration", "percentage"), ("time", "duration"), ("zone", "time")] }
    let backward : Settings := { aliases := .ofList [("long", "time"), ("time", "duration")] }
    (∃ r, chained.registry = .ok r ∧ r.get? "zone" = chained.aliases.meaning "zone" ∧
      r.get? "zone" = some .percentage ∧ r.contains "byte-size" = true) ∧
    ∃ e, backward.registry = .error e ∧ e = .badAlias (.unknownFormatter "long" "time") ∧
      backward.aliases.meaning "long" = none := by
  intro chained backward
  have made : ∃ r, chained.registry = .ok r ∧ r.get? "zone" = some .percentage := ⟨_, rfl, rfl⟩
  have failed : backward.registry = .error (.badAlias (.unknownFormatter "long" "time")) := rfl
  obtain ⟨r, made, zone⟩ := made
  obtain ⟨-, given, -⟩ := registry_by_meaning chained
  obtain ⟨-, -, refused, -⟩ := registry_by_meaning backward
  obtain ⟨meant, -, known⟩ := given r made
  obtain ⟨name, target, nothing, same⟩ := refused _ failed
  cases same
  refine ⟨⟨r, made, meant "zone" (by decide +kernel), zone, (known _).2 (by decide +kernel)⟩,
    _, failed, rfl, nothing.nothing⟩

end Settings

end StatusReport
