import StatusReport.Report.Basic
import StatusReport.Text.Width

/-! # Columns of a table

Each visible leaf is a column. It belongs to the nearest boxed group around it, and the header
labels the runs of columns that belong together.

* `columns`: the columns of a schema under a visibility.
* `headerLines`: the lines above the rows.
-/

namespace StatusReport

/-- The boxed group that a column is shown under. The number tells groups of one name apart. -/
structure ColumnGroup where
  id : Nat
  name : String
deriving DecidableEq, Repr

structure Column where
  leaf : Label
  group : Option ColumnGroup
deriving DecidableEq, Repr

/-! ## Collecting -/

mutual

/-- The columns from a node on, given the boxed group around it. -/
def columnsOf (visibility : Visibility) (around : Option ColumnGroup) : Node → List Column
  | .leaf label => if visibility.isShown label.id then [⟨label, around⟩] else []
  | .group label name flatten children =>
    columnsOfAll visibility (if flatten then around else some ⟨label.id, name⟩) children

def columnsOfAll (visibility : Visibility) (around : Option ColumnGroup) :
    List Node → List Column
  | [] => []
  | node :: rest => columnsOf visibility around node ++ columnsOfAll visibility around rest

end

def columns (schema : Schema) (visibility : Visibility) : List Column :=
  columnsOfAll visibility none schema.roots

/-! ## Header -/

def cellSeparator : String := "\t"

/-- What precedes every label of a group after the first. -/
def groupMarker : String := "| "

def cellLine (cells : List String) : String := cellSeparator.intercalate cells

def groupLabel (first : Bool) (g : ColumnGroup) : String :=
  if first then g.name else groupMarker ++ g.name

/-- The labels above columns, given the group of the column before them and whether the next label
    is the first. A group is labelled where a run of its columns starts. -/
def groupCells (previous : Option Nat) (first : Bool) : List Column → List String
  | [] => []
  | column :: rest =>
    match column.group with
    | none => "" :: groupCells none first rest
    | some g =>
      if previous = some g.id then "" :: groupCells previous first rest
      else groupLabel first g :: groupCells (some g.id) false rest

def underline (title : String) : String :=
  .ofList (List.replicate (Text.visualWidth title) '-')

/-- The lines above the rows: the groups, if a column has one, the titles, and their underlines. -/
def headerLines (columns : List Column) : List String :=
  let titles := columns.map (·.leaf.title)
  let groups := if columns.any (·.group.isSome) then [cellLine (groupCells none true columns)] else []
  groups ++ [cellLine titles, cellLine (titles.map underline)]

end StatusReport
