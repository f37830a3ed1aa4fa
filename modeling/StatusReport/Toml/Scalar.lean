import StatusReport.Data
import StatusReport.Text.CharCode
import StatusReport.Toml.Moment

/-! # Values that TOML spells in one word

A word is a truth value, a moment or a number. Underscores stand only between digits, no needless
zero leads a whole number, and a real number has digits on both sides of its point.

A moment becomes a table of its text under a key of its own, since plain data has none.

* `Scalar.read?`: the data that a word spells.
-/

namespace StatusReport.Toml.Scalar

open Number

/-! ## Digits -/

/-- The digits of a run in which underscores stand only between digits. -/
def groupedDigits? (isDigit : Char → Bool) : List Char → Option (List Char)
  | [] => none
  | [c] => if isDigit c then some [c] else none
  | c :: '_' :: d :: rest =>
    if isDigit c then (groupedDigits? isDigit (d :: rest)).map (c :: ·) else none
  | c :: d :: rest =>
    if isDigit c then (groupedDigits? isDigit (d :: rest)).map (c :: ·) else none

def isDecimal (c : Char) : Bool := (digit? c).isSome

def wholeDigits? (cs : List Char) : Option (List Char) :=
  match groupedDigits? isDecimal cs with
  | some ['0'] => some ['0']
  | some ('0' :: _) => none
  | ds => ds

/-! ## Whole numbers -/

def ofWhole? (n : Int) : Option Data :=
  if -(Nat.pow 2 127) ≤ n ∧ n < Nat.pow 2 128 then some (.integer n) else none

def inBase? (base : Nat) (cs : List Char) : Option Data := do
  let value (c : Char) := (Text.hexDigit? c).filter (· < base)
  let ds ← groupedDigits? (fun c => (value c).isSome) cs
  ofWhole? (ds.foldl (fun n c => base * n + (value c).getD 0) 0 : Nat)

def base? : Char → Option Nat
  | 'x' => some 16
  | 'o' => some 8
  | 'b' => some 2
  | _ => none

/-! ## Real numbers -/

def exponent? (cs : List Char) : Option Int :=
  let (negative, cs) := Literal.sign cs
  (groupedDigits? isDecimal cs).map fun ds =>
    if negative then -(valueOfDigits ds) else valueOfDigits ds

def cut (p : Char → Bool) (cs : List Char) : List Char × Option (List Char) :=
  match cs.span fun c => !p c with
  | (before, []) => (before, none)
  | (before, _ :: after) => (before, some after)

/-- A real number without its sign. What is beyond every finite one cannot be read. -/
def ofReal? (negative : Bool) (cs : List Char) : Option Data := do
  let (mantissa, exponent) := cut (fun c => c = 'e' || c = 'E') cs
  let (whole, places) := cut (· = '.') mantissa
  let whole ← wholeDigits? whole
  let places ← match places with
    | none => some []
    | some ds => groupedDigits? isDecimal ds
  let power ← match exponent with
    | none => some 0
    | some e => exponent? e
  match (⟨negative, valueOfDigits (whole ++ places), power - places.length⟩ : Literal).toDouble with
  | .finite negative code => some (.real (.finite negative code))
  | _ => none

/-! ## Words -/

def ofNumber? (negative : Bool) (cs : List Char) : Option Data :=
  if cs.any fun c => c = '.' || c = 'e' || c = 'E' then ofReal? negative cs
  else do
    let ds ← wholeDigits? cs
    let n := valueOfDigits ds
    ofWhole? (if negative then -n else n)

def signedNumber? (negative : Bool) (cs : List Char) : Option Data :=
  if cs = "inf".toList then some (.real (.infinite negative))
  else if cs = "nan".toList then some (.real .nan)
  else ofNumber? negative cs

def momentKey : String := "$__toml_private_datetime"

def ofMoment (m : Moment) : Data := .table [(momentKey, .text m.text)]

/-- Whether a word is a moment: what follows its first digits tells. -/
def looksLikeMoment (cs : List Char) : Bool :=
  match spanDigits cs with
  | (_ :: _, c :: _) => c = '-' || c = ':'
  | _ => false

def unsigned? (cs : List Char) : Option Data :=
  if looksLikeMoment cs then (Moment.read? cs).map ofMoment
  else match cs with
    | '0' :: c :: rest =>
      match base? c with
      | some base => inBase? base rest
      | none => signedNumber? false cs
    | _ => signedNumber? false cs

def read? (cs : List Char) : Option Data :=
  if cs = "true".toList then some (.bool true)
  else if cs = "false".toList then some (.bool false)
  else match cs with
    | '+' :: rest => signedNumber? false rest
    | '-' :: rest => signedNumber? true rest
    | _ => unsigned? cs

end StatusReport.Toml.Scalar
