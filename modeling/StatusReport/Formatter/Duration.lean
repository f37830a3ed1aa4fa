import StatusReport.Formatter.Basic

/-! # Lengths of time

A number of seconds is shown as hours, minutes and seconds; a fraction of a second is dropped.
-/

namespace StatusReport.Formatter

open Number

def durationId : String := "duration"

/-- Whole seconds as hours, minutes and seconds of two digits or more. -/
def clock (seconds : Nat) : String :=
  .ofList (paddedDigits 2 (seconds / 3600) ++ ':' :: paddedDigits 2 (seconds % 3600 / 60) ++
    ':' :: paddedDigits 2 (seconds % 60))

def durationText (x : Binary64) : Except FormatError String :=
  let seconds := x.truncate
  if seconds.isNegative then .error (.negativeDuration durationId seconds)
  else .ok (clock seconds.toUInt64.toNat)

def duration : Formatter := .ofValue fun v => (numberFor durationId v).bind durationText

end StatusReport.Formatter
