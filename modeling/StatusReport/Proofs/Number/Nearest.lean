import Mathlib.Algebra.Group.Nat.Defs
import StatusReport.Number.Rounding

/-! # The nearest whole number with 53 significant bits

A large whole number is no double in general: of its binary digits the first 53 are kept, and the
rest is rounded away, a tie going to the even significand. This module says what is left, without
reference to how a double is stored.

* `roundHalfEven_nearest`: rounding a quotient gives a multiple of the divisor that is nearest.
* `IsDouble`, `nearestDouble`: whole numbers with 53 significant bits, and rounding to them.
* `nearestDouble_nearest`: none of them is nearer.
* `nearestDouble_mono`, `nearestDouble_of_isDouble`: the order is kept, and those numbers are too.
-/

namespace StatusReport.Number

/-! ## Distances -/

def distance (a b : Nat) : Nat := a - b + (b - a)

theorem distance_self (a : Nat) : distance a a = 0 := by simp [distance]

theorem eq_of_distance_eq_zero {a b : Nat} (h : distance a b = 0) : b = a := by
  unfold distance at h
  omega

/-- Of two candidates, the one nearer to the smaller number is not above the one nearer to the
    greater. -/
theorem le_of_nearest {m n a b : Nat} (less : m < n) (nearM : distance m a ≤ distance m b)
    (nearN : distance n b ≤ distance n a) : a ≤ b := by
  unfold distance at nearM nearN
  omega

/-! ## Rounding quotients -/

theorem roundHalfEven_cases (num den : Nat) :
    (roundHalfEven num den = num / den ∧ 2 * (num % den) ≤ den) ∨
      (roundHalfEven num den = num / den + 1 ∧ den ≤ 2 * (num % den)) := by
  unfold roundHalfEven
  split
  · exact .inl ⟨rfl, by omega⟩
  · split
    · exact .inr ⟨rfl, by omega⟩
    · split
      · exact .inl ⟨rfl, by omega⟩
      · exact .inr ⟨rfl, by omega⟩

/-- A common factor of numerator and denominator does not change the rounded quotient. -/
theorem roundHalfEven_mul_right (num den : Nat) {c : Nat} (pos : 0 < c) :
    roundHalfEven (num * c) (den * c) = roundHalfEven num den := by
  have double : 2 * (num % den * c) = 2 * (num % den) * c := (Nat.mul_assoc _ _ _).symm
  simp only [roundHalfEven, Nat.mul_div_mul_right _ _ pos, Nat.mul_mod_mul_right, double,
    Nat.mul_lt_mul_right pos]

theorem multiple_beside (k f den : Nat) : k * den ≤ f * den ∨ f * den + den ≤ k * den := by
  rcases Nat.lt_or_ge f k with above | below
  · have step := Nat.mul_le_mul_right den above
    rw [Nat.succ_mul] at step
    exact .inr step
  · exact .inl (Nat.mul_le_mul_right den below)

/-- No multiple of the divisor is nearer than the one that rounding gives. -/
theorem roundHalfEven_nearest {den : Nat} (pos : 0 < den) (num k : Nat) :
    distance num (roundHalfEven num den * den) ≤ distance num (k * den) := by
  have parts := Nat.div_add_mod num den
  have rest := Nat.mod_lt num pos
  rw [Nat.mul_comm] at parts
  have beside := multiple_beside k (num / den) den
  unfold distance
  obtain ⟨rounded, half⟩ | ⟨rounded, half⟩ := roundHalfEven_cases num den
  · rw [rounded]
    omega
  · rw [rounded, Nat.succ_mul]
    omega

theorem roundHalfEven_mono {den : Nat} (pos : 0 < den) {num num' : Nat} (h : num ≤ num') :
    roundHalfEven num den ≤ roundHalfEven num' den := by
  rcases Nat.eq_or_lt_of_le h with rfl | less
  · exact Nat.le_refl _
  · refine Nat.le_of_mul_le_mul_right (le_of_nearest less ?_ ?_) pos
    · exact roundHalfEven_nearest pos num _
    · exact roundHalfEven_nearest pos num' _

/-- For odd `q`, a quotient rounds beyond `q` exactly from `q + 1/2` on: that tie goes to the even
    side. -/
theorem lt_roundHalfEven_iff {q den : Nat} (pos : 0 < den) (odd : q % 2 = 1) (num : Nat) :
    q < roundHalfEven num den ↔ (2 * q + 1) * den ≤ 2 * num := by
  have parts := Nat.div_add_mod' num den
  have rest := Nat.mod_lt num pos
  have twice : (2 * q + 1) * den = 2 * (q * den) + den := by
    rw [Nat.succ_mul, Nat.mul_assoc]
  rw [twice]
  -- Rounding moves the whole part by one at most, so only a whole part of `q` is close.
  rcases Nat.lt_trichotomy (num / den) q with below | rfl | above
  · have step := Nat.mul_le_mul_right den below
    have rounded := roundHalfEven_le num den
    rw [Nat.succ_mul] at step
    omega
  · rw [roundHalfEven, if_neg (show ¬ num / den % 2 = 0 by omega)]
    split
    · omega
    · split <;> omega
  · have step := Nat.mul_le_mul_right den above
    have rounded := div_le_roundHalfEven num den
    rw [Nat.succ_mul] at step
    omega

theorem roundHalfEven_le_of_le {num den k : Nat} (pos : 0 < den) (h : num ≤ k * den) :
    roundHalfEven num den ≤ k := by
  rcases Nat.eq_or_lt_of_le h with rfl | less
  · exact Nat.le_of_eq (roundHalfEven_mul k pos)
  · have whole := (Nat.div_lt_iff_lt_mul pos).2 less
    have above := roundHalfEven_le num den
    omega

/-! ## Significant bits -/

/-- Whole numbers with at most 53 significant bits. -/
def IsDouble (n : Nat) : Prop :=
  ∃ significand exponent : Nat, significand < 2 ^ (53 : Nat) ∧ n = significand * 2 ^ exponent

/-- The distance between neighbours with 53 significant bits around a number. -/
def spacing (n : Nat) : Nat := 2 ^ (n.log2 - 52)

/-- The number of that kind that is nearest to a natural number, a tie going to the even
    significand. -/
def nearestDouble (n : Nat) : Nat := roundHalfEven n (spacing n) * spacing n

theorem spacing_pos (n : Nat) : 0 < spacing n := Nat.two_pow_pos _

theorem significand_bounds {n : Nat} (large : 52 ≤ n.log2) :
    2 ^ (52 : Nat) * spacing n ≤ n ∧ n < 2 ^ (53 : Nat) * spacing n := by
  have nonzero : n ≠ 0 := by
    rintro rfl
    simp at large
  have low := Nat.log2_self_le nonzero
  have high := @Nat.lt_log2_self n
  rw [spacing, ← Nat.pow_add, ← Nat.pow_add]
  rw [show 52 + (n.log2 - 52) = n.log2 by omega, show 53 + (n.log2 - 52) = n.log2 + 1 by omega]
  exact ⟨low, high⟩

theorem spacing_of_small {n : Nat} (small : n.log2 < 52) : spacing n = 1 := by
  rw [spacing, Nat.sub_eq_zero_of_le (Nat.le_of_lt small), Nat.pow_zero]

theorem nearestDouble_of_small {n : Nat} (small : n.log2 < 52) : nearestDouble n = n := by
  rw [nearestDouble, spacing_of_small small, roundHalfEven_one, Nat.mul_one]

theorem rounded_bounds {n : Nat} (large : 52 ≤ n.log2) :
    2 ^ (52 : Nat) ≤ roundHalfEven n (spacing n) ∧
      roundHalfEven n (spacing n) ≤ 2 ^ (53 : Nat) := by
  obtain ⟨low, high⟩ := significand_bounds large
  have below := div_le_roundHalfEven n (spacing n)
  have above := roundHalfEven_le n (spacing n)
  rw [← Nat.le_div_iff_mul_le (spacing_pos n)] at low
  rw [← Nat.div_lt_iff_lt_mul (spacing_pos n)] at high
  omega

theorem isDouble_nearestDouble (n : Nat) : IsDouble (nearestDouble n) := by
  rcases Nat.lt_or_ge n.log2 52 with small | large
  · rw [nearestDouble_of_small small]
    have bound := @Nat.lt_log2_self n
    have power := Nat.pow_le_pow_right (n := 2) (by decide) (show n.log2 + 1 ≤ 53 by omega)
    exact ⟨n, 0, by omega, by simp⟩
  · obtain ⟨-, high⟩ := rounded_bounds large
    rcases Nat.lt_or_ge (roundHalfEven n (spacing n)) (2 ^ (53 : Nat)) with fits | carries
    · exact ⟨_, _, fits, rfl⟩
    · -- The significand is a power of two, so half of it does with twice the spacing.
      refine ⟨2 ^ (52 : Nat), n.log2 - 52 + 1, by decide, ?_⟩
      rw [nearestDouble, Nat.le_antisymm high carries, spacing, Nat.pow_succ]
      omega

/-- From the power of two below a number on, those with 53 significant bits are multiples of its
    spacing. -/
theorem IsDouble.multiple {n d : Nat} (double : IsDouble d)
    (large : 2 ^ (52 : Nat) * spacing n ≤ d) : ∃ k, d = k * spacing n := by
  obtain ⟨significand, exponent, bound, rfl⟩ := double
  rw [spacing] at large ⊢
  rcases Nat.lt_or_ge exponent (n.log2 - 52) with fine | coarse
  · -- With a finer exponent the number would be smaller.
    have step : 2 ^ (exponent + 1) ≤ 2 ^ (n.log2 - 52) := Nat.pow_le_pow_right (by decide) fine
    have small : significand * 2 ^ exponent < 2 ^ (53 : Nat) * 2 ^ exponent :=
      Nat.mul_lt_mul_of_pos_right bound (Nat.two_pow_pos _)
    rw [Nat.pow_succ] at step
    omega
  · refine ⟨significand * 2 ^ (exponent - (n.log2 - 52)), ?_⟩
    rw [Nat.mul_assoc, ← Nat.pow_add, Nat.sub_add_cancel coarse]

/-- No number with 53 significant bits is nearer than the one that rounding gives. -/
theorem nearestDouble_nearest (n : Nat) {d : Nat} (double : IsDouble d) :
    distance n (nearestDouble n) ≤ distance n d := by
  rcases Nat.lt_or_ge n.log2 52 with small | large
  · rw [nearestDouble_of_small small, distance_self]
    exact Nat.zero_le _
  · obtain ⟨low, -⟩ := significand_bounds large
    rcases Nat.lt_or_ge d (2 ^ (52 : Nat) * spacing n) with below | above
    · -- The power of two in between is a multiple, and nearer already.
      have nearest := roundHalfEven_nearest (spacing_pos n) n (2 ^ (52 : Nat))
      refine Nat.le_trans nearest ?_
      unfold distance
      omega
    · obtain ⟨k, rfl⟩ := double.multiple above
      exact roundHalfEven_nearest (spacing_pos n) n k

theorem nearestDouble_of_isDouble {n : Nat} (double : IsDouble n) : nearestDouble n = n := by
  have nearest := nearestDouble_nearest n double
  rw [distance_self] at nearest
  exact eq_of_distance_eq_zero (Nat.le_zero.1 nearest)

theorem nearestDouble_mono {m n : Nat} (h : m ≤ n) : nearestDouble m ≤ nearestDouble n := by
  rcases Nat.eq_or_lt_of_le h with rfl | less
  · exact Nat.le_refl _
  · exact le_of_nearest less (nearestDouble_nearest m (isDouble_nearestDouble n))
      (nearestDouble_nearest n (isDouble_nearestDouble m))

theorem isDouble_two_pow (k : Nat) : IsDouble (2 ^ k) := ⟨1, k, by decide, (Nat.one_mul _).symm⟩

theorem isDouble_of_le {n : Nat} (h : n ≤ 2 ^ (53 : Nat)) : IsDouble n := by
  rcases Nat.eq_or_lt_of_le h with rfl | less
  · exact isDouble_two_pow 53
  · exact ⟨n, 0, less, by simp⟩

/-- Rounding does not carry a number across one of at most `2 ^ 53`. -/
theorem nearestDouble_lt_iff {n d : Nat} (exact : d ≤ 2 ^ (53 : Nat)) :
    nearestDouble n < d ↔ n < d := by
  rcases Nat.lt_or_ge n d with below | above
  · rw [nearestDouble_of_isDouble (isDouble_of_le (by omega))]
  · have rounded := nearestDouble_mono above
    rw [nearestDouble_of_isDouble (isDouble_of_le exact)] at rounded
    omega

theorem nearestDouble_pos {n : Nat} (pos : 0 < n) : 0 < nearestDouble n := by
  have rounded : nearestDouble 1 ≤ nearestDouble n := nearestDouble_mono pos
  rwa [nearestDouble_of_isDouble (isDouble_of_le (by decide))] at rounded

end StatusReport.Number
