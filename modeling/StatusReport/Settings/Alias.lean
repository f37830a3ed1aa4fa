import StatusReport.Formatter.Registry

/-! # Further names of formatters

An alias table holds each further name once, with the name that it stands for. The names are
resolved in ascending order, each against the built-in formatters and the names before it.

* `AliasTable.resolve`: a registry under the names of a table too.
-/

namespace StatusReport

/-- Further names of formatters, each with the name that it stands for. -/
structure AliasTable where
  entries : Entries String
  sorted : Ascending entries.keys
deriving DecidableEq

namespace AliasTable

def empty : AliasTable := ⟨[], .nil⟩

instance : EmptyCollection AliasTable := ⟨empty⟩
instance : Inhabited AliasTable := ⟨empty⟩

def insert (t : AliasTable) (name target : String) : AliasTable :=
  ⟨t.entries.insert name target, by simpa using t.sorted.insert⟩

/-- The names of a list, of which the later one counts. -/
def ofList (entries : List (String × String)) : AliasTable :=
  entries.foldl (fun t (name, target) => t.insert name target) empty

def names (t : AliasTable) : List String := t.entries.keys

def get? (t : AliasTable) (name : String) : Option String := Entries.get? name t.entries

@[simp] theorem get?_insert_self (t : AliasTable) (name target : String) :
    (t.insert name target).get? name = some target := by
  simp [get?, insert]

theorem get?_insert_of_ne {name other : String} (h : other ≠ name) (t : AliasTable)
    (target : String) : (t.insert name target).get? other = t.get? other := by
  simp [get?, insert, Entries.get?_insert_of_ne h]

/-- Adds names in order to what is known already. -/
def resolveFrom : Entries String → Registry → Except SchemaError Registry
  | [], r => .ok r
  | (name, target) :: rest, r =>
    match r.withAlias name target with
    | .error e => .error e
    | .ok r => resolveFrom rest r

def resolve (t : AliasTable) (r : Registry) : Except SchemaError Registry :=
  resolveFrom t.entries r

end AliasTable

end StatusReport
