/-! # Errors of a schema -/

namespace StatusReport

inductive SchemaError where
  /-- A field, or an alias, names a formatter that there is not. -/
  | unknownFormatter (field formatter : String)
deriving DecidableEq, Repr

namespace SchemaError

def message : SchemaError → String
  | .unknownFormatter field formatter =>
    "field '" ++ field ++ "' uses unknown formatter '" ++ formatter ++ "'"

end SchemaError

end StatusReport
