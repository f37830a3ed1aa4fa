import StatusReport.Number.Binary64

/-! # Decimal text of numbers

Two ways to write a double in decimal. With *fixed places* the exact value is rounded to a number
of digits after the point. The *shortest* text has the fewest digits that read back as the same
double, and of those the ones nearest to the exact value.

* `fixedText places num den`: a quotient with fixed places.
* `shortest tie code`: the shortest digits and their power of ten.
* `Binary64.fixed`, `Binary64.plain`: the two texts of a double without an exponent.
* `Literal.read?`: reads a decimal literal.
-/

namespace StatusReport.Number

/-! ## Digits -/

def digits (n : Nat) : List Char := Nat.toDigits 10 n

def paddedDigits (width n : Nat) : List Char :=
  List.replicate (width - (digits n).length) '0' ++ digits n

def signed (negative : Bool) (text : List Char) : List Char :=
  if negative then '-' :: text else text

def intText (n : Int) : List Char := signed (decide (n < 0)) (digits n.natAbs)

/-- The quotient `num / den` rounded to `places` digits after the point. -/
def fixedText (places num den : Nat) : List Char :=
  let scaled := roundHalfEven (num * Nat.pow 10 places) den
  let whole := digits (scaled / Nat.pow 10 places)
  if places = 0 then whole
  else whole ++ '.' :: paddedDigits places (scaled % Nat.pow 10 places)

/-! ## The shortest digits

The reals that round to a double form an interval around it, halfway to its neighbours on both
sides; the ends belong to it when the significand is even. Below a power of two the lower
neighbour is only half as far. Distances are counted in quarters of the last place. -/

inductive Tie where
  | up
  | even
deriving DecidableEq, Repr

/-- The interval of a code as two counts of quarters of `2 ^ e`, with its middle, its exponent and
    whether the ends belong to it. -/
structure Basin where
  low : Nat
  middle : Nat
  high : Nat
  exponent : Int
  closed : Bool
deriving DecidableEq, Repr

/-- The reals that round to a code. -/
def Basin.ofCode (code : Nat) : Basin :=
  let f := BinaryFormat.double
  let (m, e) := f.decode code
  let lowerGap := if m = f.hidden ∧ f.minExponent < e then 1 else 2
  ⟨4 * m - lowerGap, 4 * m, 4 * m + 2, e - 2, m % 2 = 0⟩

def Basin.scale (b : Basin) (power : Int) : Nat × Nat :=
  (Nat.pow 2 b.exponent.toNat * Nat.pow 10 (-power).toNat,
    Nat.pow 2 (-b.exponent).toNat * Nat.pow 10 power.toNat)

def Basin.contains (b : Basin) (power : Int) (d : Nat) : Bool :=
  let (up, down) := b.scale power
  if b.closed then b.low * up ≤ d * down ∧ d * down ≤ b.high * up
  else b.low * up < d * down ∧ d * down < b.high * up

/-- The lower of two neighbours, unless the upper one is nearer or wins the tie. -/
def Tie.choose (tie : Tie) (below gapBelow gapAbove : Nat) : Nat :=
  if gapBelow < gapAbove then below
  else if gapAbove < gapBelow then below + 1
  else if tie = .even ∧ below % 2 = 0 then below
  else below + 1

/-- The multiple of `10 ^ power` in the interval that is nearest to its middle, if there is one.
    Only the two multiples around the middle can be. -/
def Basin.nearest? (b : Basin) (tie : Tie) (power : Int) : Option Nat :=
  let (up, down) := b.scale power
  let below := b.middle * up / down
  match b.contains power below, b.contains power (below + 1) with
  | true, true =>
    some (tie.choose below (b.middle * up - below * down) ((below + 1) * down - b.middle * up))
  | true, false => some below
  | false, true => some (below + 1)
  | false, false => none

/-- Tries ever finer powers of ten. Seventeen digits always suffice. -/
def Basin.shortest (b : Basin) (tie : Tie) : Nat → Int → Nat × Int
  | 0, power =>
    let (up, down) := b.scale power
    (b.middle * up / down, power)
  | tries + 1, power =>
    match b.nearest? tie power with
    | some d => (d, power)
    | none => b.shortest tie tries (power - 1)

def trimZeros : Nat → Nat → Int → Nat × Int
  | 0, d, power => (d, power)
  | tries + 1, d, power =>
    if d ≠ 0 ∧ d % 10 = 0 then trimZeros tries (d / 10) (power + 1) else (d, power)

/-- The fewest digits `d` and their power of ten `p` for which `d * 10 ^ p` reads back as the code,
    nearest to its value. -/
def shortest (tie : Tie) (code : Nat) : Nat × Int :=
  if code = 0 then (0, 0) else
  let (num, den) := BinaryFormat.double.fraction code
  let (d, power) := (Basin.ofCode code).shortest tie 17 (floorLog10 num den)
  trimZeros 20 d power

/-- Digits times a power of ten without an exponent: zeros fill the places up to the point. -/
def positional (ds : List Char) (power : Int) : List Char :=
  let places := (-power).toNat
  if places = 0 then ds ++ List.replicate power.toNat '0'
  else if places < ds.length then
    ds.take (ds.length - places) ++ '.' :: ds.drop (ds.length - places)
  else '0' :: '.' :: List.replicate (places - ds.length) '0' ++ ds

/-! ## Doubles -/

namespace Binary64

def infinityText (negative : Bool) : List Char := signed negative "inf".toList

/-- With a fixed number of places. A negative number that rounds to zero keeps its sign. -/
def fixed (places : Nat) : Binary64 → String
  | .nan => "NaN"
  | .infinite negative => .ofList (infinityText negative)
  | .finite negative code =>
    let (num, den) := BinaryFormat.double.fraction code
    .ofList (signed negative (fixedText places num den))

/-- The shortest digits, without an exponent and without a point where there is no fraction. -/
def plain : Binary64 → String
  | .nan => "NaN"
  | .infinite negative => .ofList (infinityText negative)
  | .finite negative code =>
    let (d, power) := shortest .up code
    .ofList (signed negative (positional (digits d) power))

end Binary64

/-! ## Reading -/

def digit? (c : Char) : Option Nat :=
  if '0' ≤ c ∧ c ≤ '9' then some (c.toNat - '0'.toNat) else none

def spanDigits : List Char → List Char × List Char
  | [] => ([], [])
  | c :: rest =>
    if (digit? c).isSome then
      let (ds, rest) := spanDigits rest
      (c :: ds, rest)
    else ([], c :: rest)

def valueOfDigits (ds : List Char) : Nat :=
  ds.foldl (fun n c => 10 * n + (digit? c).getD 0) 0

/-- A decimal literal: the digits without the point, and the power of ten of the last one. -/
structure Literal where
  negative : Bool
  digits : Nat
  exponent : Int
deriving DecidableEq, Repr

namespace Literal

def sign : List Char → Bool × List Char
  | '-' :: rest => (true, rest)
  | '+' :: rest => (false, rest)
  | cs => (false, cs)

def readExponent? : List Char → Option Int
  | [] => some 0
  | c :: rest =>
    if c = 'e' ∨ c = 'E' then
      match sign rest with
      | (negative, rest) =>
        match spanDigits rest with
        | ([], _) => none
        | (ds, []) => some (if negative then -(valueOfDigits ds) else valueOfDigits ds)
        | (_, _ :: _) => none
    else none

def readFraction : List Char → List Char × List Char
  | '.' :: rest => spanDigits rest
  | cs => ([], cs)

/-- Reads a sign, digits with at most one point among or around them, and an exponent. -/
def read? (cs : List Char) : Option Literal :=
  let (negative, cs) := sign cs
  let (whole, cs) := spanDigits cs
  let (places, cs) := readFraction cs
  if whole.isEmpty && places.isEmpty then none
  else
    (readExponent? cs).map fun e =>
      ⟨negative, valueOfDigits (whole ++ places), e - places.length⟩

def toDouble (l : Literal) : Binary64 := .ofDecimal l.negative l.digits l.exponent

def toSingle (l : Literal) : Binary64 := .ofDecimalSingle l.negative l.digits l.exponent

end Literal

end StatusReport.Number
