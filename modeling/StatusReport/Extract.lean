import StatusReport.Value.Basic

/-! # Extraction of values

A selector is the sequence of keys that leads from a record to a value. Indirection is looked
through after every key. The value is absent where a key leads to nothing, or to what is no record
while keys are left.

* `Record.extract`: the value that a selector leads to. The empty selector leads to the record.
-/

namespace StatusReport

namespace Record

/-- The value that a selector leads to, `none` where it is absent. -/
def extract (r : Record) : List String → Option Value
  | [] => some (.ofRecord r)
  | [key] => (r.field key).concrete?
  | key :: next :: rest =>
    match (r.field key).concrete? with
    | some (.record field displayText) => extract ⟨field, displayText⟩ (next :: rest)
    | _ => none

@[simp] theorem extract_nil (r : Record) : r.extract [] = some (.ofRecord r) := by
  simp [extract]

@[simp] theorem extract_singleton (r : Record) (key : String) :
    r.extract [key] = (r.field key).concrete? := by
  simp [extract]

theorem extract_cons_cons (r : Record) (key next : String) (rest : List String) :
    r.extract (key :: next :: rest) =
      match (r.field key).concrete? with
      | some (.record field displayText) => extract ⟨field, displayText⟩ (next :: rest)
      | _ => none := by
  simp [extract]

end Record

end StatusReport
