import StatusReport.Data
import StatusReport.Text.CharCode
import StatusReport.Yaml.Tag

/-! # What the scalars of a YAML document stand for

A plain scalar without a tag stands for nothing, a truth value or a number if it looks like one, and
else for its text. Leading zeros make a text of digits. A quoted scalar is a text.

* `Scalar.plain?`: the data of a plain scalar.
* `Scalar.data?`: the data of a scalar with a tag or without.
-/

namespace StatusReport.Yaml.Scalar

open Number

/-! ## Words -/

def nullWords : List (List Char) := ["null", "Null", "NULL", "~"].map String.toList

def bool? (cs : List Char) : Option Bool :=
  if ["true", "True", "TRUE"].any fun s => cs = s.toList then some true
  else if ["false", "False", "FALSE"].any fun s => cs = s.toList then some false
  else none

/-! ## Whole numbers -/

def inBase? (base : Nat) (cs : List Char) : Option Nat :=
  let value (c : Char) := (Text.hexDigit? c).filter (· < base)
  if cs.isEmpty then none
  else if cs.all fun c => (value c).isSome then
    some (cs.foldl (fun n c => base * n + (value c).getD 0) 0)
  else none

/-- The base that characters announce, with what follows. -/
def base? : List Char → Option (Nat × List Char)
  | '0' :: 'x' :: cs => some (16, cs)
  | '0' :: 'o' :: cs => some (8, cs)
  | '0' :: 'b' :: cs => some (2, cs)
  | _ => none

def hasLeadingZero : List Char → Bool
  | '0' :: c :: cs => (c :: cs).all fun c => (digit? c).isSome
  | _ => false

def magnitude? (cs : List Char) : Option Nat :=
  match base? cs with
  | some (base, cs) => inBase? base cs
  | none => if hasLeadingZero cs then none else inBase? 10 cs

/-- A whole number as it is spelled, and its value: of numbers with a sign a smaller range can be
    told from real ones. -/
def whole? : List Char → Option Int
  | '-' :: cs =>
    (magnitude? cs).bind fun n => if n ≤ Nat.pow 2 127 then some (-n) else none
  | '+' :: cs => unsigned? cs
  | cs => unsigned? cs
where
  unsigned? (cs : List Char) : Option Int :=
    (magnitude? cs).bind fun n => if n < Nat.pow 2 128 then some n else none

/-- The data of a whole number, which has to fit 64 bits. -/
def ofWhole? (n : Int) : Option Data :=
  if -(Nat.pow 2 63) ≤ n ∧ n < Nat.pow 2 64 then some (.integer n) else none

/-! ## Real numbers -/

def infinities : List (List Char) := [".inf", ".Inf", ".INF"].map String.toList

def notNumbers : List (List Char) := [".nan", ".NaN", ".NAN"].map String.toList

def finite? (cs : List Char) : Option Binary64 :=
  match (Literal.read? cs).map Literal.toDouble with
  | some (.finite negative code) => some (.finite negative code)
  | _ => none

def real? (cs : List Char) : Option Binary64 :=
  if notNumbers.contains cs then some .nan
  else match cs with
    | '+' :: rest =>
      if infinities.contains rest then some (.infinite false)
      else match rest with
        | '+' :: _ | '-' :: _ => none
        | _ => finite? rest
    | '-' :: rest => if infinities.contains rest then some (.infinite true) else finite? cs
    | _ => if infinities.contains cs then some (.infinite false) else finite? cs

/-- Whether a scalar is digits with a needless zero in front, after a sign or without. -/
def isPaddedNumber : List Char → Bool
  | '-' :: cs | '+' :: cs => hasLeadingZero cs
  | cs => hasLeadingZero cs

/-- A real number as data, which has only finite ones. -/
def ofReal : Binary64 → Data
  | .finite negative code => .real (.finite negative code)
  | _ => .null

/-! ## Scalars -/

/-- The data of a plain scalar without a tag. -/
def plain? (cs : List Char) : Option Data :=
  if cs.isEmpty || nullWords.contains cs then some .null
  else match bool? cs with
    | some b => some (.bool b)
    | none =>
      match whole? cs with
      | some n => ofWhole? n
      | none =>
        match if isPaddedNumber cs then none else real? cs with
        | some x => some (ofReal x)
        | none => some (.text (.ofList cs))

def afterStart? : List Char → List Char → Option (List Char)
  | [], cs => some cs
  | a :: start, c :: cs => if a = c then afterStart? start cs else none
  | _ :: _, [] => none

def coreType? (tag : List Char) : Option String :=
  (afterStart? Tag.coreTypes tag).map String.ofList

/-- Whether a tag is one that a document defines for itself. No data has such a tag. -/
def isOwnTag (tag : Option (List Char)) : Bool :=
  match tag with
  | some ('!' :: _) => true
  | _ => false

/-- The data of a scalar. A tag of a core type has to fit; every other one makes it a text. -/
def data? (tag : Option (List Char)) (cs : List Char) (plain : Bool) : Option Data :=
  match tag with
  | none => if plain then plain? cs else some (.text (.ofList cs))
  | some tag =>
    if isOwnTag (some tag) then none
    else match coreType? tag with
      | some "bool" => (bool? cs).map .bool
      | some "int" => (whole? cs).bind ofWhole?
      | some "float" => (real? cs).map ofReal
      | some "null" => if nullWords.contains cs then some .null else none
      | _ => some (.text (.ofList cs))

end StatusReport.Yaml.Scalar
