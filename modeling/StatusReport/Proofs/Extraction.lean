import StatusReport.Extract

/-! # Extraction through indirections

Looking up a selector in a record is looking up its first part, and then the rest in the record found
there. Indirections do not matter for it: put around the values of fields, as many as one likes and as
deep as one likes, they make no other difference than that they are still there inside of what is found.

* `Record.extract_append`: extraction in two parts.
* `Layers`, `Record.wrap`: indirections around the fields of a record.
* `Record.extract_wrap`: what is found in a wrapped record.
* `Record.extract_through_indirections`: the laws of extraction.
-/

namespace StatusReport

/-! ## Parts of a selector -/

def Value.record? : Value → Option Record
  | .record field displayText => some ⟨field, displayText⟩
  | _ => none

@[simp] theorem Value.record?_ofRecord (r : Record) : (ofRecord r).record? = some r := rfl

theorem Value.record?_eq_some_iff {v : Value} {r : Record} : v.record? = some r ↔ v = ofRecord r := by
  constructor
  · intro found
    cases v with
    | record field displayText =>
      cases found
      rfl
    | _ => cases found
  · rintro rfl
    rfl

namespace Record

theorem extract_cons_of_ne_nil (r : Record) (key : String) {rest : List String} (more : rest ≠ []) :
    r.extract (key :: rest) = ((r.extract [key]).bind Value.record?).bind (·.extract rest) := by
  obtain ⟨next, rest, rfl⟩ := List.exists_cons_of_ne_nil more
  rw [extract_cons_cons, extract_singleton]
  cases (r.field key).concrete? with
  | none => rfl
  | some v => cases v <;> rfl

/-- Behind what the first part of a selector leads to, the rest is looked up as in any record. -/
theorem extract_append (r : Record) (a : List String) {b : List String} (more : b ≠ []) :
    r.extract (a ++ b) = ((r.extract a).bind Value.record?).bind (·.extract b) := by
  induction a generalizing r with
  | nil => rfl
  | cons key rest ih =>
    rw [List.cons_append, extract_cons_of_ne_nil r key (List.append_ne_nil_of_right_ne_nil rest more)]
    -- Either the first part ends with the key, or it goes on in the record that the key leads to.
    by_cases single : rest = []
    · rw [single, List.nil_append]
    · rw [extract_cons_of_ne_nil r key single]
      cases (r.extract [key]).bind Value.record? with
      | none => rfl
      | some inner => exact ih inner

/-! ## What is found -/

theorem extract_singleton_eq_some {r : Record} {key : String} {v : Value}
    (found : r.extract [key] = some v) : v = (r.field key).deref ∧ v ≠ .nil := by
  rw [extract_singleton] at found
  obtain rfl := Value.concrete?_eq_some found
  refine ⟨rfl, fun missing => ?_⟩
  rw [(Value.concrete?_eq_none_iff _).2 missing] at found
  cases found

theorem extract_concrete {r : Record} {selector : List String} {v : Value}
    (found : r.extract selector = some v) : v ≠ .nil ∧ ∀ w, v ≠ .ref w := by
  obtain rfl | ⟨around, key, rfl⟩ := List.eq_nil_or_concat selector
  · cases found
    exact ⟨nofun, nofun⟩
  · rw [List.concat_eq_append, extract_append r around (List.cons_ne_nil _ _)] at found
    obtain ⟨inner, -, last⟩ := Option.bind_eq_some_iff.1 found
    obtain ⟨rfl, present⟩ := extract_singleton_eq_some last
    exact ⟨present, Value.deref_ne_ref _⟩

end Record

/-! ## Wrapped values -/

/-- A step into a value: to what a record holds under a key, or to an item of a list. -/
inductive Step where
  | key (key : String)
  | item (i : Nat)
deriving DecidableEq, Repr

/-- How many indirections to put around what the steps from a value lead to. -/
def Layers : Type := List Step → Nat

namespace Layers

def behind (layers : Layers) (step : Step) : Layers := fun steps => layers (step :: steps)

/-- The layers around what is below the value that a selector leads to. -/
def below (layers : Layers) (selector : List String) : Layers :=
  fun steps => layers (selector.map .key ++ steps)

end Layers

namespace Value

def wrapped (v : Value) : Nat → Value
  | 0 => v
  | n + 1 => .ref (v.wrapped n)

mutual

/-- A value with indirections around the values of fields in it. -/
def wrap (layers : Layers) : Value → Value
  | .list items => .list (wrapItems layers 0 items)
  | .record field displayText =>
    .record (fun key => (wrap (layers.behind (.key key)) (field key)).wrapped (layers [.key key]))
      displayText
  | .ref inner => .ref (wrap layers inner)
  | v => v

def wrapItems (layers : Layers) (i : Nat) : List Value → List Value
  | [] => []
  | v :: rest => wrap (layers.behind (.item i)) v :: wrapItems layers (i + 1) rest

end

mutual

def holdsRecord : Value → Bool
  | .list items => anyHoldsRecord items
  | .record .. => true
  | .ref inner => holdsRecord inner
  | _ => false

def anyHoldsRecord : List Value → Bool
  | [] => false
  | v :: rest => holdsRecord v || anyHoldsRecord rest

end

mutual

theorem wrap_of_holdsRecord (layers : Layers) (v : Value) (flat : v.holdsRecord = false) :
    v.wrap layers = v := by
  cases v with
  | list items => rw [wrap, wrapItems_of_anyHoldsRecord layers 0 items flat]
  | record field displayText => cases flat
  | ref inner => rw [wrap, wrap_of_holdsRecord layers inner flat]
  | _ => rfl

theorem wrapItems_of_anyHoldsRecord (layers : Layers) (i : Nat) (items : List Value)
    (flat : anyHoldsRecord items = false) : wrapItems layers i items = items := by
  cases items with
  | nil => rfl
  | cons v rest =>
    obtain ⟨first, others⟩ := Bool.or_eq_false_iff.1 flat
    rw [wrapItems, wrap_of_holdsRecord _ v first, wrapItems_of_anyHoldsRecord layers _ rest others]

end

theorem concrete?_wrapped (v : Value) (n : Nat) : (v.wrapped n).concrete? = v.concrete? := by
  induction n with
  | zero => rfl
  | succ n ih => exact ih

theorem concrete?_wrap (layers : Layers) (v : Value) :
    (v.wrap layers).concrete? = v.concrete?.map (wrap layers) := by
  induction v using deref.induct with
  | case1 inner ih => exact ih
  | case2 v h =>
    cases v with
    | ref inner => exact absurd rfl (h inner)
    | _ => rfl

end Value

namespace Record

/-- A record with indirections around the values of its fields, at any depth. -/
def wrap (layers : Layers) (r : Record) : Record where
  field key := ((r.field key).wrap (layers.behind (.key key))).wrapped (layers [.key key])
  displayText := r.displayText

theorem extract_singleton_wrap (layers : Layers) (r : Record) (key : String) :
    (r.wrap layers).extract [key] = (r.extract [key]).map (·.wrap (layers.behind (.key key))) := by
  rw [extract_singleton, extract_singleton, wrap, Value.concrete?_wrapped, Value.concrete?_wrap]

/-- In a wrapped record the same is found, with the layers that are below it. -/
theorem extract_wrap (layers : Layers) (r : Record) (selector : List String) :
    (r.wrap layers).extract selector = (r.extract selector).map (·.wrap (layers.below selector)) := by
  induction selector generalizing layers r with
  | nil => rfl
  | cons key rest ih =>
    by_cases single : rest = []
    · rw [single]
      exact extract_singleton_wrap layers r key
    · rw [extract_cons_of_ne_nil _ key single, extract_cons_of_ne_nil _ key single,
        extract_singleton_wrap]
      -- The layers around what the key leads to are looked through, and those inside are carried on.
      cases r.extract [key] with
      | none => rfl
      | some v =>
        cases v with
        | record field displayText => exact ih (layers.behind (.key key)) ⟨field, displayText⟩
        | _ => rfl

/-- What the first part of a selector leads to is where the rest is looked up, and if it is no record
    the rest leads to nothing. What is found is neither missing nor an indirection, and under a key it
    is what is behind all indirections there, unless that is missing. Indirections put around the
    values of fields anywhere in the record change nothing about what is found where, apart from the
    indirections that are in it: without a record in it, it is the very same. -/
theorem extract_through_indirections (r : Record) :
    (∀ a b, b ≠ [] →
      (∀ inner, r.extract a = some (.ofRecord inner) → r.extract (a ++ b) = inner.extract b) ∧
      ((∀ inner, r.extract a ≠ some (.ofRecord inner)) → r.extract (a ++ b) = none)) ∧
    (∀ selector v, r.extract selector = some v → v ≠ .nil ∧ ∀ w, v ≠ .ref w) ∧
    (∀ key, (r.extract [key] = none ↔ (r.field key).deref = .nil) ∧
      ((r.field key).deref ≠ .nil → r.extract [key] = some (r.field key).deref)) ∧
    (∀ layers selector, (r.wrap layers).extract selector =
      (r.extract selector).map (·.wrap (layers.below selector))) ∧
    (∀ layers selector v, r.extract selector = some v → v.holdsRecord = false →
      (r.wrap layers).extract selector = some v) := by
  refine ⟨fun a b more => ⟨fun inner found => ?_, fun other => ?_⟩, fun selector v => extract_concrete,
    fun key => ⟨?_, fun present => ?_⟩, fun layers => extract_wrap layers r,
    fun layers selector v found flat => ?_⟩
  · rw [extract_append r a more, found]
    rfl
  -- What is no record has no field to go on with.
  · rw [extract_append r a more, Option.bind_eq_none_iff]
    intro inner found
    obtain ⟨v, at_a, same⟩ := Option.bind_eq_some_iff.1 found
    rw [Value.record?_eq_some_iff.1 same] at at_a
    exact absurd at_a (other inner)
  · rw [extract_singleton, Value.concrete?_eq_none_iff]
  · cases found : r.extract [key] with
    | none =>
      rw [extract_singleton, Value.concrete?_eq_none_iff] at found
      exact absurd found present
    | some v => rw [(extract_singleton_eq_some found).1]
  · rw [extract_wrap, found, Option.map_some, Value.wrap_of_holdsRecord _ v flat]

end Record

namespace Sample

def heldUsage : Record where
  field key := if key = "cpu" then .ref (.int 1) else .ref .nil

def heldMachine : Record where
  field key := if key = "usage" then .ref (.ref (.ofRecord heldUsage)) else .nil

end Sample

/-- The usage of the machine is looked up where it is held, also with two more layers around all. -/
theorem Record.extract_through_indirections_machine :
    let r := Sample.heldMachine
    r.extract ["usage", "cpu"] = some (.int 1) ∧ r.extract ["usage", "cpu", "max"] = none ∧
      r.extract ["usage", "mem"] = none ∧ Value.int 1 ≠ .nil ∧
      (r.wrap fun _ => 2).extract ["usage", "cpu"] = some (.int 1) := by
  intro r
  obtain ⟨parts, concrete, single, -, same⟩ := extract_through_indirections Sample.heldMachine
  have usage : r.extract ["usage"] = some (.ofRecord Sample.heldUsage) := (single "usage").2 nofun
  have cpu : r.extract ["usage", "cpu"] = some (.int 1) :=
    (parts ["usage"] ["cpu"] (List.cons_ne_nil _ _)).1 _ usage
  have max : r.extract ["usage", "cpu", "max"] = none :=
    (parts ["usage", "cpu"] ["max"] (List.cons_ne_nil _ _)).2 fun inner found => by
      cases cpu.symm.trans found
  have mem : r.extract ["usage", "mem"] = none :=
    (parts ["usage"] ["mem"] (List.cons_ne_nil _ _)).1 _ usage
  exact ⟨cpu, max, mem, (concrete _ _ cpu).1, same _ _ _ cpu rfl⟩

end StatusReport
