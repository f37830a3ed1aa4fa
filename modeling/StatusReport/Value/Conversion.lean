import StatusReport.Value.Basic
import StatusReport.Json.Writer

/-! # Values from other types

* `ToValue`: types whose values a record can hand out. An optional value is one indirection, or
  nothing; whatever is `Held` elsewhere is one indirection.
* `Value.ofData`, `Record.ofData`: plain data. A table is a record whose text is its JSON text.
-/

namespace StatusReport

open Number (Binary64)

/-! ## Plain data -/

namespace Value

/-- A whole number: signed if that is enough, else unsigned, else rounded to a double. -/
def ofInt (n : Int) : Value :=
  if -(Nat.pow 2 63) ≤ n ∧ n < Nat.pow 2 63 then .int (.ofInt n)
  else if 0 ≤ n ∧ n < Nat.pow 2 64 then .uint (.ofNat n.toNat)
  else .float (.ofInt n)

mutual

def ofData : Data → Value
  | .null => .nil
  | .bool b => .bool b
  | .integer n => ofInt n
  | .real x => .float x
  | .text s => .str s
  | .list items => .list (ofItems items)
  | .table entries =>
    let fields := ofEntries entries
    .record (fun key => (Entries.get? key fields).getD .nil) (Json.compact (.table entries))

def ofItems : List Data → List Value
  | [] => []
  | d :: rest => ofData d :: ofItems rest

def ofEntries : List (String × Data) → List (String × Value)
  | [] => []
  | (key, d) :: rest => (key, ofData d) :: ofEntries rest

end

theorem get?_ofEntries (key : String) (entries : List (String × Data)) :
    Entries.get? key (ofEntries entries) = (Entries.get? key entries).map ofData := by
  induction entries with
  | nil => rfl
  | cons entry rest ih =>
    obtain ⟨k, d⟩ := entry
    by_cases h : key = k <;> simp [ofEntries, Entries.get?, h, ih]

end Value

/-- Data as a record: a table hands out its entries, all else holds nothing. -/
def Record.ofData (d : Data) : Record :=
  ⟨fun key => Value.ofData (d.getD key), Json.compact d⟩

theorem Record.ofData_table (entries : List (String × Data)) :
    Value.ofRecord (.ofData (.table entries)) = Value.ofData (.table entries) := by
  simp only [Value.ofRecord, Record.ofData, Value.ofData, Value.record.injEq, and_true]
  funext key
  rw [Value.get?_ofEntries]
  simp only [Data.getD, Data.get?]
  cases Entries.get? key entries <;> rfl

/-! ## Types of a program -/

/-- Types whose values a record can hand out. -/
class ToValue (α : Type u) where
  toValue : α → Value

export ToValue (toValue)

structure Held (α : Type u) where
  content : α

instance : ToValue Int8 := ⟨fun i => .int i.toInt64⟩
instance : ToValue Int16 := ⟨fun i => .int i.toInt64⟩
instance : ToValue Int32 := ⟨fun i => .int i.toInt64⟩
instance : ToValue Int64 := ⟨.int⟩
instance : ToValue UInt8 := ⟨fun u => .uint u.toUInt64⟩
instance : ToValue UInt16 := ⟨fun u => .uint u.toUInt64⟩
instance : ToValue UInt32 := ⟨fun u => .uint u.toUInt64⟩
instance : ToValue UInt64 := ⟨.uint⟩
instance : ToValue Binary64 := ⟨.float⟩
instance : ToValue Bool := ⟨.bool⟩
instance : ToValue String := ⟨.str⟩
instance : ToValue Data := ⟨.ofData⟩

instance [ToValue α] : ToValue (Option α) where
  toValue
    | some a => .ref (toValue a)
    | none => .nil

instance [ToValue α] : ToValue (Held α) := ⟨fun h => .ref (toValue h.content)⟩

instance [ToValue α] : ToValue (List α) := ⟨fun items => .list (items.map toValue)⟩

end StatusReport
