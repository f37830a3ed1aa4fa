import StatusReport.Data

/-! # Numbers of a JSON document

A literal without a fraction and an exponent is a whole number as long as it fits a machine word:
64 bits without a sign if it is positive, with a sign if it is negative. Every other literal is a
real number, and so is a negative zero.

A real number is read in two steps, each rounded to the nearest double. The significand is the
longest run of leading digits that fits 64 bits, digits after it only scale; it is then multiplied
or divided by a power of ten. A literal whose value has no finite double is refused.
-/

namespace StatusReport.Json

open Number

/-! ## The literal -/

/-- The parts of a number literal. `exponent` is empty when the literal has none. -/
structure NumberLiteral where
  negative : Bool
  whole : List Char
  places : List Char
  exponent : Option (Bool × List Char)
deriving Repr

def wholeOk : List Char → Bool
  | [] => false
  | ['0'] => true
  | '0' :: _ => false
  | _ => true

/-- The exponent of a literal, which ends it. -/
def exponent? : List Char → Option (Option (Bool × List Char))
  | [] => some none
  | c :: rest =>
    if c = 'e' ∨ c = 'E' then
      match Literal.sign rest with
      | (negative, rest) =>
        match spanDigits rest with
        | (ds, []) => if ds.isEmpty then none else some (some (negative, ds))
        | _ => none
    else none

/-- The fraction of a literal, with what follows it. A point needs a digit after it. -/
def places? : List Char → Option (List Char × List Char)
  | '.' :: rest =>
    let (ds, rest) := spanDigits rest
    if ds.isEmpty then none else some (ds, rest)
  | cs => some ([], cs)

def minus : List Char → Bool × List Char
  | '-' :: rest => (true, rest)
  | cs => (false, cs)

def numberLiteral? (cs : List Char) : Option NumberLiteral :=
  let (negative, cs) := minus cs
  let (whole, cs) := spanDigits cs
  if wholeOk whole then
    match places? cs with
    | none => none
    | some (places, cs) => (exponent? cs).map (⟨negative, whole, places, ·⟩)
  else none

/-! ## Its value -/

def maxSignificand : Nat := Nat.pow 2 64 - 1

/-- Appends leading digits to a significand while it stays within 64 bits; the rest of the digits
    is given back. -/
def absorb (significand : Nat) : List Char → Nat × List Char
  | [] => (significand, [])
  | c :: cs =>
    let next := 10 * significand + (digit? c).getD 0
    if next ≤ maxSignificand then absorb next cs else (significand, c :: cs)

def powerOfTen (k : Nat) : Nat := BinaryFormat.double.encode (Nat.pow 10 k) 1

def maxPower : Nat := 308

/-- Multiplies or divides a code by a power of ten, and gives `none` for what is not finite. What
    is divided by two of the greatest powers is zero whatever it was. -/
def scale? (code : Nat) (exponent : Int) : Option Nat :=
  let double := BinaryFormat.double
  if code = 0 then some 0
  else if 0 ≤ exponent then
    if exponent ≤ maxPower then
      let product := double.mul code (powerOfTen exponent.toNat)
      if product < double.infinityCode then some product else none
    else none
  else if -(maxPower : Int) ≤ exponent then
    some (double.div code (powerOfTen (-exponent).toNat))
  -- No single power reaches this far down.
  else if -(2 * maxPower : Int) ≤ exponent then
    some (double.div (double.div code (powerOfTen maxPower))
      (powerOfTen (-exponent - maxPower).toNat))
  else some 0

namespace NumberLiteral

def exponentValue (l : NumberLiteral) : Int :=
  match l.exponent with
  | none => 0
  | some (negative, ds) => if negative then -(valueOfDigits ds : Int) else valueOfDigits ds

/-- The real number of a literal, `none` when it is not finite. -/
def real? (l : NumberLiteral) : Option Data :=
  -- Digits that do not fit still count: those before the point raise the power, and those after
  -- it are gone.
  let (s, dropped) := absorb 0 l.whole
  let (significand, left) := absorb s l.places
  let power : Int := dropped.length - (l.places.length - left.length : Nat) + l.exponentValue
  (scale? (BinaryFormat.double.encode significand 1) power).map fun code =>
    .real (.ofCode l.negative code)

def value? (l : NumberLiteral) : Option Data :=
  if l.places.isEmpty && l.exponent.isNone then
    let n := valueOfDigits l.whole
    if l.negative then
      if 0 < n ∧ n ≤ Nat.pow 2 63 then some (.integer (-n)) else l.real?
    else if n ≤ maxSignificand then some (.integer n)
    else l.real?
  else l.real?

end NumberLiteral

end StatusReport.Json
