import StatusReport.Number.Rounding

/-! # Double precision numbers as exact data

A finite binary number of the interchange formats is a sign and a *code*: the bits below the sign,
read as a natural number. Codes number the non-negative values of a format in increasing order, so
order and rounding are statements about natural numbers.

* `BinaryFormat.encode num den`: the code of the value nearest to `num / den`.
* `BinaryFormat.fraction code`: the exact quotient that a code stands for.
* `Binary64`: double precision numbers, with `ofInt`, `ofDecimal`, order tests and the conversions
  to machine integers that truncate and saturate.
-/

namespace StatusReport.Number

/-! ## Formats -/

/-- A binary interchange format: how many bits the significand has, the exponent of the smallest
    positive value, and how many exponent fields stand for finite values. -/
structure BinaryFormat where
  precision : Nat
  minExponent : Int
  finiteExponents : Nat
deriving DecidableEq, Repr

namespace BinaryFormat

def double : BinaryFormat := ⟨53, -1074, 2047⟩

def single : BinaryFormat := ⟨24, -149, 255⟩

/-- The significand of the first value with a leading one; also the number of codes that share an
    exponent. -/
def hidden (f : BinaryFormat) : Nat := Nat.pow 2 (f.precision - 1)

def infinityCode (f : BinaryFormat) : Nat := f.finiteExponents * f.hidden

/-- The significand `m` and exponent `e` of a code: it stands for `m * 2 ^ e`. -/
def decode (f : BinaryFormat) (code : Nat) : Nat × Int :=
  if code / f.hidden = 0 then (code % f.hidden, f.minExponent)
  else (f.hidden + code % f.hidden, f.minExponent + (code / f.hidden : Nat) - 1)

/-- The exact value of a code as a quotient. -/
def fraction (f : BinaryFormat) (code : Nat) : Nat × Nat :=
  let (m, e) := f.decode code
  (m * Nat.pow 2 e.toNat, Nat.pow 2 (-e).toNat)

/-- The code of the value nearest to `num / den`, ties to even; at least `infinityCode` when no
    finite value is near enough. A significand that rounds up to the next power of two carries into
    the exponent by itself. -/
def encode (f : BinaryFormat) (num den : Nat) : Nat :=
  if num = 0 then 0 else
  let e := max f.minExponent (floorLog2 num den - (f.precision - 1 : Nat))
  let q := roundHalfEven (num * Nat.pow 2 (-e).toNat) (den * Nat.pow 2 e.toNat)
  (e - f.minExponent).toNat * f.hidden + q

def mul (f : BinaryFormat) (a b : Nat) : Nat :=
  let (an, ad) := f.fraction a
  let (bn, bd) := f.fraction b
  f.encode (an * bn) (ad * bd)

/-- The code nearest to a quotient of two finite codes, of which the second is not zero. -/
def div (f : BinaryFormat) (a b : Nat) : Nat :=
  let (an, ad) := f.fraction a
  let (bn, bd) := f.fraction b
  f.encode (an * bd) (ad * bn)

@[simp] theorem encode_zero (f : BinaryFormat) (den : Nat) : f.encode 0 den = 0 := rfl

end BinaryFormat

/-! ## Double precision -/

/-- A double precision number. All the patterns that are no number are one value. -/
inductive Binary64 where
  | nan
  | infinite (negative : Bool)
  | finite (negative : Bool) (code : Fin BinaryFormat.double.infinityCode)
deriving DecidableEq

namespace Binary64

open BinaryFormat (double single)

/-- The number with a code, infinite from `infinityCode` on. -/
def ofCode (negative : Bool) (code : Nat) : Binary64 :=
  if h : code < double.infinityCode then .finite negative ⟨code, h⟩ else .infinite negative

def ofFraction (negative : Bool) (num den : Nat) : Binary64 :=
  ofCode negative (double.encode num den)

def zero : Binary64 := .finite false ⟨0, by decide⟩

instance : Inhabited Binary64 := ⟨zero⟩

def ofNat (n : Nat) : Binary64 := ofFraction false n 1

def ofInt (n : Int) : Binary64 := ofFraction (decide (n < 0)) n.natAbs 1

def toBits : Binary64 → Nat
  | .nan => (2 * double.finiteExponents + 1) * (double.hidden / 2)
  | .infinite negative => negative.toNat * Nat.pow 2 63 + double.infinityCode
  | .finite negative code => negative.toNat * Nat.pow 2 63 + code.val

/-! ## Decimals -/

/-- The code of a format nearest to `digits * 10 ^ exponent`. The powers of ten outside the bound
    lie beyond every finite value or below half the smallest one, so they are not computed. -/
def decimalCode (f : BinaryFormat) (digits : Nat) (exponent : Int) : Nat :=
  if digits = 0 then 0
  else if 400 < digitCount digits + exponent then f.infinityCode
  else if digitCount digits + exponent < -400 then 0
  else f.encode (digits * Nat.pow 10 exponent.toNat) (Nat.pow 10 (-exponent).toNat)

def ofDecimal (negative : Bool) (digits : Nat) (exponent : Int) : Binary64 :=
  ofCode negative (decimalCode double digits exponent)

/-- The single precision number nearest to `digits * 10 ^ exponent`, as a double. -/
def ofDecimalSingle (negative : Bool) (digits : Nat) (exponent : Int) : Binary64 :=
  let code := decimalCode single digits exponent
  if code < single.infinityCode then
    let (num, den) := single.fraction code
    ofFraction negative num den
  else .infinite negative

/-! ## Order -/

/-- Whether a number lies below zero. Negative zero does not, nor does what is no number. -/
def isNegative : Binary64 → Bool
  | .nan => false
  | .infinite negative => negative
  | .finite negative code => negative && 0 < code.val

def ltNat (x : Binary64) (n : Nat) : Bool :=
  match x with
  | .nan => false
  | .infinite negative => negative
  | .finite negative code =>
    negative && 0 < code.val ||
      let (num, den) := double.fraction code
      num < n * den

/-! ## Whole numbers -/

def wholeCode (code : Nat) : Nat :=
  let (num, den) := double.fraction code
  num / den

/-- Drops the fraction, keeping the sign, also that of zero. -/
def truncate : Binary64 → Binary64
  | .finite negative code => ofFraction negative (wholeCode code) 1
  | x => x

/-- The whole part as an unsigned 64-bit number: what lies outside the range goes to its nearer
    end, and what is no number goes to zero. -/
def toUInt64 : Binary64 → UInt64
  | .nan => 0
  | .infinite negative => if negative then 0 else .ofNat (Nat.pow 2 64 - 1)
  | .finite negative code =>
    if negative then 0 else .ofNat (min (wholeCode code) (Nat.pow 2 64 - 1))

def toInt64 : Binary64 → Int64
  | .nan => 0
  | .infinite negative => if negative then .ofInt (-(Nat.pow 2 63)) else .ofInt (Nat.pow 2 63 - 1)
  | .finite negative code =>
    if negative then .ofInt (max (-(wholeCode code : Int)) (-(Nat.pow 2 63)))
    else .ofInt (min (wholeCode code : Int) (Nat.pow 2 63 - 1))

end Binary64

end StatusReport.Number
