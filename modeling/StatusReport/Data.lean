import StatusReport.Entries
import StatusReport.Number.Decimal

/-! # Plain data

What a document holds, whatever notation spells it: nothing, truth values, numbers, texts, lists
and tables. Whole numbers are exact and apart from the real ones. The entries of a table are sorted
by key.
-/

namespace StatusReport

open Number (Binary64)

/-- A tree of plain data. -/
inductive Data where
  | null
  | bool (b : Bool)
  | integer (n : Int)
  | real (x : Binary64)
  | text (s : String)
  | list (items : List Data)
  | table (entries : List (String × Data))
deriving Inhabited

namespace Data

/-- The entry of a table under a key, `none` for data that are no table. -/
def get? (key : String) : Data → Option Data
  | .table entries => Entries.get? key entries
  | _ => none

def getD (key : String) (d : Data) : Data := (d.get? key).getD .null

end Data

end StatusReport
