import StatusReport.Json.Reader
import StatusReport.Yaml.Reader

/-! # Input documents

The records of a report come from a document in JSON or YAML. A list holds a record in each item,
and a table is a single one.

* `Document.parse`: the data of a document.
* `Document.rows`, `Document.record`: the records in it.
-/

namespace StatusReport

/-- Why a document gives no records. -/
inductive InputError where
  | malformedJson
  | malformedYaml
  /-- The document is neither a list nor a table. -/
  | unexpectedShape (found : String)
  | indexOutOfRange (index count : Nat)
deriving DecidableEq, Repr

def InputError.message : InputError → String
  | .malformedJson => "Failed to parse JSON input"
  | .malformedYaml => "Failed to parse YAML input"
  | .unexpectedShape found => "Expected an array or an object, found " ++ found
  | .indexOutOfRange index count =>
    "Record index " ++ .ofList (Number.digits index) ++ " is out of range (" ++
      .ofList (Number.digits count) ++ " records)"

namespace Document

/-- What data is called in messages. -/
def shapeName : Data → String
  | .null => "null"
  | .bool _ => "a boolean"
  | .integer _ | .real _ => "a number"
  | .text _ => "a string"
  | .list _ => "an array"
  | .table _ => "an object"

/-- The data of a document. What is not known to be YAML is read as JSON if it can be. -/
def parse (isYaml : Bool) (content : String) : Except InputError Data :=
  match if isYaml then none else Json.read? content with
  | some d => .ok d
  | none =>
    match Yaml.read? content with
    | some d => .ok d
    | none => .error (if isYaml then .malformedYaml else .malformedJson)

def rows : Data → Except InputError (List Data)
  | .list items => .ok items
  | .table entries => .ok [.table entries]
  | d => .error (.unexpectedShape (shapeName d))

def record (index : Nat) (d : Data) : Except InputError Data :=
  match rows d with
  | .error e => .error e
  | .ok items =>
    match items[index]? with
    | some d => .ok d
    | none => .error (.indexOutOfRange index items.length)

end Document

end StatusReport
