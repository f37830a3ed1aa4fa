/-! # Rounding quotients of natural numbers

Every number that a report prints, and every decimal that a document spells, is an exact
quotient before it is rounded. This module holds the one rounding rule they share and the
magnitude of a quotient in base two and in base ten.

* `roundHalfEven num den`: the whole number nearest to `num / den`, a tie going to the even one.
* `floorLog2 num den`, `floorLog10 num den`: the power below which the quotient does not fall.
-/

namespace StatusReport.Number

/-! ## The nearest whole number -/

/-- The whole number nearest to `num / den`; a quotient midway between two goes to the even one. -/
def roundHalfEven (num den : Nat) : Nat :=
  if 2 * (num % den) < den then num / den
  else if den < 2 * (num % den) then num / den + 1
  else if num / den % 2 = 0 then num / den
  else num / den + 1

@[simp] theorem roundHalfEven_mul (k : Nat) {den : Nat} (h : 0 < den) :
    roundHalfEven (k * den) den = k := by
  simp [roundHalfEven, Nat.mul_mod_left, Nat.mul_div_left k h, h]

@[simp] theorem roundHalfEven_one (num : Nat) : roundHalfEven num 1 = num := by
  simp [roundHalfEven, Nat.mod_one]

theorem div_le_roundHalfEven (num den : Nat) : num / den ≤ roundHalfEven num den := by
  unfold roundHalfEven
  split
  · exact Nat.le_refl _
  · split
    · exact Nat.le_succ _
    · split
      · exact Nat.le_refl _
      · exact Nat.le_succ _

theorem roundHalfEven_le (num den : Nat) : roundHalfEven num den ≤ num / den + 1 := by
  unfold roundHalfEven
  split
  · exact Nat.le_succ _
  · split
    · exact Nat.le_refl _
    · split
      · exact Nat.le_succ _
      · exact Nat.le_refl _

/-! ## Magnitude

An exponent is an integer, so a power on one side of a comparison is a power of the negated
exponent on the other side: `(-e).toNat` is zero wherever `e.toNat` is not. Powers are `Nat.pow` by
name, so that no import chooses their instance. -/

/-- Compares `num / den` with `base ^ e`: holds when the quotient is the smaller. -/
def belowPower (base num den : Nat) (e : Int) : Bool :=
  num * Nat.pow base (-e).toNat < den * Nat.pow base e.toNat

/-- The greatest `e` with `2 ^ e ≤ num / den`, for positive `num` and `den`. -/
def floorLog2 (num den : Nat) : Int :=
  let e : Int := num.log2 - den.log2
  if belowPower 2 num den e then e - 1 else e

def digitCount (n : Nat) : Nat := (Nat.toDigits 10 n).length

/-- The greatest `e` with `10 ^ e ≤ num / den`, for positive `num` and `den`. -/
def floorLog10 (num den : Nat) : Int :=
  let e : Int := digitCount num - digitCount den
  if belowPower 10 num den e then e - 1 else e

end StatusReport.Number
