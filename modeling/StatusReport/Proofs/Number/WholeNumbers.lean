import StatusReport.Number.Binary64
import StatusReport.Proofs.Number.Nearest

/-! # Whole numbers as doubles

A whole number that becomes a double is rounded to 53 significant bits, and what is computed with
it afterwards sees the rounded number.

* `BinaryFormat.Represents`: a code that stands for a whole number.
* `encode_represents`: the code of a whole number stands for `nearestDouble` of it.
* `Binary64.IsWhole`: finite doubles that stand for a whole number, with what truncation, the
  conversion to a machine word and the order do to them.
-/

namespace StatusReport.Number

namespace BinaryFormat

/-! ## Codes -/

/-- A code is the exponent of a significand with a leading one, counted from the smallest exponent,
    and that significand. Its leading one counts for one more in the exponent field. -/
theorem decode_add (f : BinaryFormat) {field significand : Nat} (low : f.hidden ≤ significand)
    (high : significand < 2 * f.hidden) :
    f.decode (field * f.hidden + significand) = (significand, f.minExponent + field) := by
  obtain ⟨rest, rfl⟩ := Nat.exists_eq_add_of_le low
  have small : rest < f.hidden := by omega
  have above : 0 < f.hidden := by omega
  have code : field * f.hidden + (f.hidden + rest) = rest + (field + 1) * f.hidden := by
    rw [Nat.succ_mul]
    omega
  rw [decode, code, Nat.add_mul_div_right _ _ above, Nat.add_mul_mod_self_right,
    Nat.div_eq_of_lt small, Nat.mod_eq_of_lt small, Nat.zero_add, if_neg (Nat.succ_ne_zero field)]
  simp only [Prod.mk.injEq, true_and]
  omega

theorem fraction_add (f : BinaryFormat) {field significand : Nat} (low : f.hidden ≤ significand)
    (high : significand < 2 * f.hidden) :
    f.fraction (field * f.hidden + significand) =
      (significand * 2 ^ (f.minExponent + field).toNat, 2 ^ (-(f.minExponent + field)).toNat) := by
  rw [fraction, f.decode_add low high]
  rfl

theorem fraction_pos (f : BinaryFormat) (code : Nat) : 0 < (f.fraction code).2 :=
  Nat.two_pow_pos _

def Represents (f : BinaryFormat) (code n : Nat) : Prop :=
  ∃ den, 0 < den ∧ f.fraction code = (n * den, den)

theorem represents_zero (f : BinaryFormat) : f.Represents 0 0 := by
  refine ⟨2 ^ (-f.minExponent).toNat, Nat.two_pow_pos _, ?_⟩
  simp [fraction, decode]

end BinaryFormat

open BinaryFormat (double)

theorem floorLog2_one {n : Nat} (nonzero : n ≠ 0) : floorLog2 n 1 = n.log2 := by
  have low := Nat.log2_self_le nonzero
  have power : (-(n.log2 : Int)).toNat = 0 := by omega
  simp [floorLog2, belowPower, show Nat.log2 1 = 0 by decide, power, Nat.not_lt.2 low]

/-- The first 53 binary digits of a whole number, rounded, with zeros where it has fewer. -/
def significand (n : Nat) : Nat := roundHalfEven (n * 2 ^ (52 - n.log2)) (spacing n)

theorem significand_of_small {n : Nat} (small : n.log2 < 52) :
    significand n = n * 2 ^ (52 - n.log2) := by
  rw [significand, spacing_of_small small, roundHalfEven_one]

theorem significand_of_large {n : Nat} (large : 52 ≤ n.log2) :
    significand n = roundHalfEven n (spacing n) := by
  rw [significand, Nat.sub_eq_zero_of_le large, Nat.pow_zero, Nat.mul_one]

theorem significand_mul_spacing (n : Nat) :
    significand n * spacing n = nearestDouble n * 2 ^ (52 - n.log2) := by
  rcases Nat.lt_or_ge n.log2 52 with small | large
  · rw [significand_of_small small, nearestDouble_of_small small, spacing_of_small small,
      Nat.mul_one]
  · rw [significand_of_large large, nearestDouble, Nat.sub_eq_zero_of_le large, Nat.pow_zero,
      Nat.mul_one]

theorem le_significand {n : Nat} (nonzero : n ≠ 0) : 2 ^ (52 : Nat) ≤ significand n := by
  rcases Nat.lt_or_ge n.log2 52 with small | large
  · have low := Nat.mul_le_mul_right (2 ^ (52 - n.log2)) (Nat.log2_self_le nonzero)
    rw [← Nat.pow_add, show n.log2 + (52 - n.log2) = 52 by omega] at low
    rwa [significand_of_small small]
  · rw [significand_of_large large]
    exact (rounded_bounds large).1

/-- A significand rounds up to a power of two only for numbers of 53 digits or more. -/
theorem significand_lt_or (n : Nat) :
    significand n < 2 ^ (53 : Nat) ∨ significand n = 2 ^ (53 : Nat) ∧ 52 ≤ n.log2 := by
  rcases Nat.lt_or_ge n.log2 52 with small | large
  · have high := Nat.mul_lt_mul_of_pos_right (@Nat.lt_log2_self n) (Nat.two_pow_pos (52 - n.log2))
    rw [← Nat.pow_add, show n.log2 + 1 + (52 - n.log2) = 53 by omega] at high
    rw [significand_of_small small]
    exact .inl high
  · have high := (rounded_bounds large).2
    rw [significand_of_large large]
    omega

theorem double_hidden : double.hidden = 2 ^ (52 : Nat) := rfl

theorem encode_one {n : Nat} (nonzero : n ≠ 0) :
    double.encode n 1 = (1022 + n.log2) * double.hidden + significand n := by
  have exponent : max double.minExponent (floorLog2 n 1 - (double.precision - 1 : Nat)) =
      (n.log2 : Int) - 52 := by
    rw [floorLog2_one nonzero]
    simp only [double]
    omega
  have field : ((n.log2 : Int) - 52 - double.minExponent).toNat = 1022 + n.log2 := by
    simp only [double]
    omega
  rw [BinaryFormat.encode, if_neg nonzero]
  simp only [exponent, field, significand, spacing, Nat.one_mul, Nat.pow_eq]
  rw [show (-((n.log2 : Int) - 52)).toNat = 52 - n.log2 by omega,
    show ((n.log2 : Int) - 52).toNat = n.log2 - 52 by omega]

theorem double_fraction {log significand : Nat} (low : 2 ^ (52 : Nat) ≤ significand)
    (high : significand < 2 ^ (53 : Nat)) :
    double.fraction ((1022 + log) * double.hidden + significand) =
      (significand * 2 ^ (log - 52), 2 ^ (52 - log)) := by
  rw [double.fraction_add low high]
  rw [show (double.minExponent + (1022 + log : Nat)).toNat = log - 52 by simp only [double]; omega,
    show (-(double.minExponent + (1022 + log : Nat))).toNat = 52 - log by simp only [double]; omega]

/-- The code of a whole number stands for the nearest number with 53 significant bits. -/
theorem encode_represents (n : Nat) : double.Represents (double.encode n 1) (nearestDouble n) := by
  rcases Nat.eq_zero_or_pos n with rfl | pos
  · exact double.represents_zero
  · have nonzero := Nat.pos_iff_ne_zero.1 pos
    have scaled := significand_mul_spacing n
    rw [spacing] at scaled
    rw [encode_one nonzero]
    obtain fits | ⟨carries, large⟩ := significand_lt_or n
    · refine ⟨2 ^ (52 - n.log2), Nat.two_pow_pos _, ?_⟩
      rw [double_fraction (le_significand nonzero) fits, scaled]
    · -- A significand that is rounded up to a power of two is the first one of the next field.
      have code : (1022 + n.log2) * double.hidden + 2 ^ (53 : Nat) =
          (1022 + (n.log2 + 1)) * double.hidden + 2 ^ (52 : Nat) := by
        rw [double_hidden]
        omega
      have power : 2 ^ (n.log2 + 1 - 52) = 2 * 2 ^ (n.log2 - 52) := by
        rw [show n.log2 + 1 - 52 = (n.log2 - 52) + 1 by omega, Nat.pow_succ, Nat.mul_comm]
      rw [carries, Nat.sub_eq_zero_of_le large] at scaled
      refine ⟨1, Nat.one_pos, ?_⟩
      rw [carries, code, double_fraction (Nat.le_refl _) (by decide), power,
        Nat.sub_eq_zero_of_le (Nat.le_succ_of_le large), ← Nat.mul_assoc]
      exact congrArg (·, 1) scaled

theorem encode_pos {n : Nat} (nonzero : n ≠ 0) : 0 < double.encode n 1 := by
  have low := le_significand nonzero
  rw [encode_one nonzero]
  omega

theorem encode_lt {n : Nat} (bound : n.log2 < 1023) : double.encode n 1 < double.infinityCode := by
  have limit : double.infinityCode = 2047 * 2 ^ (52 : Nat) := rfl
  rcases Nat.eq_zero_or_pos n with rfl | pos
  · decide
  · have high := significand_lt_or n
    rw [encode_one (Nat.pos_iff_ne_zero.1 pos), double_hidden, limit]
    omega

/-! ## Doubles -/

namespace Binary64

/-- A finite double that stands for a whole number, with a sign. -/
def IsWhole (x : Binary64) (negative : Bool) (n : Nat) : Prop :=
  ∃ code, x = .finite negative code ∧ double.Represents code n

theorem wholeCode_of_represents {code n : Nat} (whole : double.Represents code n) :
    wholeCode code = n := by
  obtain ⟨den, pos, quotient⟩ := whole
  rw [wholeCode, quotient]
  exact Nat.mul_div_cancel n pos

theorem log2_lt_of_le {n : Nat} (word : n ≤ 2 ^ (64 : Nat)) : n.log2 < 1023 := by
  rcases Nat.eq_zero_or_pos n with rfl | pos
  · decide
  · have digits : n.log2 < 65 := (Nat.log2_lt (Nat.pos_iff_ne_zero.1 pos)).2 (by omega)
    omega

theorem isWhole_ofFraction (negative : Bool) {n : Nat} (word : n ≤ 2 ^ (64 : Nat)) :
    (ofFraction negative n 1).IsWhole negative (nearestDouble n) := by
  have finite := encode_lt (log2_lt_of_le word)
  refine ⟨⟨double.encode n 1, finite⟩, ?_, encode_represents n⟩
  rw [ofFraction, ofCode, dif_pos finite]

/-- Rounding goes no further than the power of two above all machine words. -/
theorem nearestDouble_le_word {n : Nat} (word : n ≤ 2 ^ (64 : Nat)) :
    nearestDouble n ≤ 2 ^ (64 : Nat) := by
  have rounded := nearestDouble_mono word
  rwa [nearestDouble_of_isDouble (isDouble_two_pow 64)] at rounded

theorem IsWhole.truncate {x : Binary64} {negative : Bool} {n : Nat} (whole : x.IsWhole negative n)
    (isDouble : IsDouble n) (word : n ≤ 2 ^ (64 : Nat)) : x.truncate.IsWhole negative n := by
  obtain ⟨code, rfl, represents⟩ := whole
  have truncated := isWhole_ofFraction negative word
  rw [nearestDouble_of_isDouble isDouble] at truncated
  rwa [Binary64.truncate, wholeCode_of_represents represents]

theorem IsWhole.toUInt64 {x : Binary64} {n : Nat} (whole : x.IsWhole false n) :
    x.toUInt64.toNat = min n (2 ^ (64 : Nat) - 1) := by
  obtain ⟨code, rfl, represents⟩ := whole
  rw [Binary64.toUInt64, wholeCode_of_represents represents]
  simp only [Bool.false_eq_true, if_false]
  exact UInt64.toNat_ofNat_of_lt' (by simp only [UInt64.size, Nat.pow_eq]; omega)

theorem IsWhole.ltNat {x : Binary64} {n : Nat} (whole : x.IsWhole false n) (bound : Nat) :
    x.ltNat bound = decide (n < bound) := by
  obtain ⟨code, rfl, den, pos, quotient⟩ := whole
  simp [Binary64.ltNat, quotient, Nat.mul_lt_mul_right pos]

theorem ltNat_of_isNegative {x : Binary64} (h : x.isNegative = true) (bound : Nat) :
    x.ltNat bound = true := by
  cases x with
  | nan => cases h
  | infinite negative => exact h
  | finite negative code =>
    rw [isNegative] at h
    rw [Binary64.ltNat, h, Bool.true_or]

theorem isNegative_ofFraction (negative : Bool) (n : Nat) :
    (ofFraction negative n 1).isNegative = (negative && decide (0 < n)) := by
  rcases Nat.eq_zero_or_pos n with rfl | pos
  · simp [ofFraction, ofCode, isNegative, show 0 < double.infinityCode by decide]
  · have code := encode_pos (Nat.pos_iff_ne_zero.1 pos)
    rw [ofFraction, ofCode]
    split
    · simp [isNegative, code, pos]
    · simp [isNegative, pos]

end Binary64

end StatusReport.Number
