import StatusReport.Data

/-! # Structures in plain data

A structure is spelled as a table of its fields by name, where names that the structure does not
have are ignored, or as a list of its fields in order. Fields at the end of a list may be missing;
what a list holds beyond the fields is refused or ignored, which depends on the notation.

* `Data.fields? surplus names d`: what `d` holds for each name.
* `orElse`: a field with a value for when it is missing.
-/

namespace StatusReport

/-- What becomes of a list that holds more than a structure has fields. -/
inductive Surplus where
  | refused
  | ignored
deriving DecidableEq, Repr

namespace Data

def inOrder : List String → List Data → List (Option Data)
  | [], _ => []
  | _ :: names, [] => none :: inOrder names []
  | _ :: names, d :: items => some d :: inOrder names items

/-- What data holds for each field of a structure, `none` if it is no structure. -/
def fields? (surplus : Surplus) (names : List String) : Data → Option (List (Option Data))
  | .table entries => some (names.map fun name => Entries.get? name entries)
  | .list items =>
    if surplus = .refused ∧ names.length < items.length then none
    else some (inOrder names items)
  | _ => none

/-! ## Values of fields -/

/-- A field, with its value for when it is missing. -/
def orElse (default : α) (read? : Data → Option α) : Option Data → Option α
  | none => some default
  | some d => read? d

def required (read? : Data → Option α) : Option Data → Option α
  | none => none
  | some d => read? d

def bool? : Data → Option Bool
  | .bool b => some b
  | _ => none

def text? : Data → Option String
  | .text s => some s
  | _ => none

def count? : Data → Option Nat
  | .integer n => if 0 ≤ n ∧ n < Nat.pow 2 64 then some n.toNat else none
  | _ => none

/-- A value that may be `null`. -/
def optional (read? : Data → Option α) : Data → Option (Option α)
  | .null => some none
  | d => (read? d).map some

def listOf (read? : Data → Option α) : Data → Option (List α)
  | .list items => items.mapM read?
  | _ => none

def tableOf (read? : Data → Option α) : Data → Option (Entries α)
  | .table entries => entries.mapM fun (key, d) => (read? d).map (key, ·)
  | _ => none

/-! ## Writing -/

def ofEntries (entries : List (String × Data)) : Data :=
  .table (entries.foldl (fun table (key, d) => Entries.insert key d table) [])

end Data

end StatusReport
