import StatusReport.Data

/-! # Tables of a TOML document in the making

A table may be spelled in several places: a header names it, the header of an inner table or a
dotted key implies it. A table may be continued only as it was made, so each one remembers where it
comes from. Values are closed: nothing in them can be continued.

* `Tree.within`: changes the table at the end of a path.
* `Tree.define`: puts a value under a key.
* `Tree.toData`: the finished table.
-/

namespace StatusReport.Toml

/-- Where a table comes from. -/
inductive Origin where
  | header
  | innerHeader
  | dottedKey
deriving DecidableEq, Repr

/-- What a key of a table in the making leads to. -/
inductive Tree where
  | value (d : Data)
  | table (origin : Origin) (entries : List (String × Tree))
  /-- The tables of a list that headers make, the latest first and the others in reverse. -/
  | tables (last : List (String × Tree)) (earlier : List (List (String × Tree)))

abbrev Branch := Entries Tree

namespace Tree

/-! ## Changing -/

/-- Changes the table at the end of a path, making the tables on the way that there are not. A
    dotted key goes through no table that has a header; of a list of tables both ways take the
    last. Nothing goes through a value. The change also learns where the table comes from. -/
def within (byKey : Bool) (change : Origin → Branch → Option Branch) :
    Origin → List String → Branch → Option Branch
  | origin, [], branch => change origin branch
  | _, key :: path, branch =>
    match Entries.get? key branch with
    | none =>
      let origin := if byKey then Origin.dottedKey else .innerHeader
      (within byKey change origin path []).map fun b => Entries.insert key (.table origin b) branch
    | some (.value _) => none
    | some (.table origin b) =>
      if byKey ∧ origin = .header then none
      else (within byKey change origin path b).map fun b =>
        Entries.insert key (.table origin b) branch
    | some (.tables last earlier) =>
      (within byKey change .header path last).map fun b =>
        Entries.insert key (.tables b earlier) branch

/-- Puts a value under the last key of a dotted key, for the first time. A dotted key ends only in
    a table of dotted keys, and a plain one only in a table of another kind. -/
def define (path : List String) (key : String) (d : Data) (branch : Branch) : Option Branch :=
  let put (origin : Origin) (branch : Branch) : Option Branch :=
    if decide (origin = .dottedKey) = path.isEmpty then none
    else if Entries.contains branch key then none
    else some (Entries.insert key (.value d) branch)
  within true put .header path branch

/-- What a header continues: nothing, or the table that headers of tables inside it implied. -/
def continued (path : List String) (key : String) (root : Branch) : Option Branch :=
  match path with
  | [] =>
    match Entries.get? key root with
    | none => some []
    | some (.table .innerHeader branch) => some branch
    | _ => none
  | next :: path =>
    match Entries.get? next root with
    | none => some []
    | some (.value _) => none
    | some (.table _ branch) => continued path key branch
    | some (.tables last _) => continued path key last

def placeTable (path : List String) (key : String) (table root : Branch) : Option Branch :=
  within false (fun _ branch => some (Entries.insert key (.table .header table) branch))
    .header path root

def placeElement (path : List String) (key : String) (table root : Branch) : Option Branch :=
  let put (_ : Origin) (branch : Branch) : Option Branch :=
    match Entries.get? key branch with
    | none => some (Entries.insert key (.tables table []) branch)
    | some (.tables last earlier) =>
      some (Entries.insert key (.tables table (last :: earlier)) branch)
    | _ => none
  within false put .header path root

/-! ## The finished table -/

mutual

def toData : Tree → Data
  | .value d => d
  | .table _ entries => .table (entriesToData entries)
  | .tables last earlier => .list (tablesToData earlier [.table (entriesToData last)])

def entriesToData : List (String × Tree) → List (String × Data)
  | [] => []
  | (key, tree) :: rest => (key, toData tree) :: entriesToData rest

def tablesToData : List (List (String × Tree)) → List Data → List Data
  | [], after => after
  | entries :: earlier, after => tablesToData earlier (.table (entriesToData entries) :: after)

end

end Tree

def Branch.toData (branch : Branch) : Data := .table (Tree.entriesToData branch)

end StatusReport.Toml
