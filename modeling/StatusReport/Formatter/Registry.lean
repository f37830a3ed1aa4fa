import StatusReport.Entries
import StatusReport.Formatter.ByteSize
import StatusReport.Formatter.Duration
import StatusReport.Formatter.Percentage
import StatusReport.Schema.Error

/-! # Formatters by name

A registry knows the built-in formatters and those that a caller adds; an added one hides a
built-in one of the same name. An alias is a second name for what a name means when the alias is
made.

* `Registry.get?`: the formatter of a name.
* `Registry.insert`, `Registry.withAlias`: adding one.
-/

namespace StatusReport

/-- Formatters that a caller added, over the built-in ones. -/
structure Registry where
  added : Entries Formatter := []

namespace Registry

def builtins : Entries Formatter :=
  [(Formatter.byteSizeId, .byteSize), (Formatter.durationId, .duration),
   (Formatter.percentageId, .percentage)]

def builtinIds : List String := builtins.keys

def empty : Registry := {}

def get? (r : Registry) (id : String) : Option Formatter :=
  (Entries.get? id r.added).or (Entries.get? id builtins)

def contains (r : Registry) (id : String) : Bool := (r.get? id).isSome

def insert (r : Registry) (id : String) (f : Formatter) : Registry :=
  ⟨Entries.insert id f r.added⟩

/-- Makes a name mean what another one means now. -/
def withAlias (r : Registry) (name target : String) : Except SchemaError Registry :=
  match r.get? target with
  | some f => .ok (r.insert name f)
  | none => .error (.unknownFormatter name target)

@[simp] theorem get?_empty (id : String) : empty.get? id = Entries.get? id builtins := rfl

@[simp] theorem get?_insert_self (r : Registry) (id : String) (f : Formatter) :
    (r.insert id f).get? id = some f := by
  simp [get?, insert]

theorem get?_insert_of_ne (r : Registry) {id other : String} (h : other ≠ id) (f : Formatter) :
    (r.insert id f).get? other = r.get? other := by
  simp [get?, insert, Entries.get?_insert_of_ne h]

end Registry

end StatusReport
