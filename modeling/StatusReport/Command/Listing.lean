import StatusReport.Report.Table
import StatusReport.Value.Conversion

/-! # The listing of columns

The columns that a layout makes are themselves records, shown as a table: where each is found, how
it is titled, and what becomes of its values.
-/

namespace StatusReport

namespace Column

/-- What a column says of itself under a key. -/
def field (c : Column) (key : String) : Value :=
  if key = "path" then toValue c.leaf.address
  else if key = "source" then toValue c.leaf.selectorPath
  else if key = "title" then toValue c.leaf.title
  else if key = "format" then toValue c.leaf.formatter
  else if key = "group" then toValue (c.group.map (·.name))
  else if key = "default" then toValue c.leaf.defaultText
  else .nil

def toRecord (c : Column) : Record := { field := c.field }

end Column

namespace Listing

def absentText : String := "-"

def descriptor : Descriptor where
  name := "ColumnRow"
  fields := [
    .scalar { key := "path", title := some "PATH" },
    .scalar { key := "source", title := some "SOURCE" },
    .scalar { key := "title", title := some "TITLE" },
    .scalar { key := "format", title := some "FORMAT", defaultText := some absentText },
    .scalar { key := "group", title := some "GROUP", defaultText := some absentText },
    .scalar { key := "default", title := some "DEFAULT", defaultText := some absentText }]

def view : TableView := .ofDescriptor descriptor {}

end Listing

end StatusReport
