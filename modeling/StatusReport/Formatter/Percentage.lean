import StatusReport.Formatter.Basic

/-! # Percentages

A number is taken as a percentage already, and shown with one place after the point.
-/

namespace StatusReport.Formatter

def percentageId : String := "percentage"

def percentage : Formatter :=
  .ofValue fun v => (numberFor percentageId v).map fun x => x.fixed 1 ++ "%"

end StatusReport.Formatter
