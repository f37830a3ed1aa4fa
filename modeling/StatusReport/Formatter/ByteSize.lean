import StatusReport.Formatter.Basic

/-! # Sizes in bytes

A size below 1024 is a whole number of bytes. From there on it has one place after the point and
the unit that leaves less than 1024 of it, as long as there is a larger unit. The unit is chosen
before rounding.
-/

namespace StatusReport.Formatter

open Number

def byteSizeId : String := "byte-size"

def unitStep : Nat := 1024

def largerUnits : List String := ["MiB", "GiB", "TiB", "PiB", "EiB"]

/-- The bytes in the unit for `num / den` bytes, with its name. The unit given stays unless a step
    fits into what it leaves and there is a larger one. -/
def pickUnit (num den : Nat) : Nat → String → List String → Nat × String
  | bytes, unit, [] => (bytes, unit)
  | bytes, unit, next :: rest =>
    if unitStep * (bytes * den) ≤ num then pickUnit num den (unitStep * bytes) next rest
    else (bytes, unit)

/-- The text of a size of at least one kibibyte: one place after the point, and the unit. -/
def scaledSize (num den : Nat) : String :=
  let (bytes, unit) := pickUnit num den unitStep "KiB" largerUnits
  .ofList (fixedText 1 num (bytes * den)) ++ " " ++ unit

/-- The text of a size below one kibibyte, negative ones included. Machine words are shown as they
    are. -/
def wholeBytes (v : Value) (x : Binary64) : String :=
  let bytes : Int64 := match v.deref with
    | .int i => i
    | .uint u => u.toInt64
    | _ => x.toInt64
  .ofList (intText bytes.toInt) ++ " B"

/-- The text of a number of bytes. What is no number keeps the first unit of the scale, and what is
    infinite reaches its last. -/
def sizeText (v : Value) (x : Binary64) : String :=
  if x.ltNat unitStep then wholeBytes v x
  else match x with
    | .nan => x.fixed 1 ++ " KiB"
    | .infinite _ => x.fixed 1 ++ " EiB"
    | .finite _ code =>
      let (num, den) := BinaryFormat.double.fraction code
      scaledSize num den

def byteSize : Formatter := .ofValue fun v => (numberFor byteSizeId v).map (sizeText v)

end StatusReport.Formatter
