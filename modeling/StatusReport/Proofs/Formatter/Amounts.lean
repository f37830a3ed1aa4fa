import Mathlib.Algebra.Order.Field.Basic
import Mathlib.Algebra.Order.Field.Rat
import Mathlib.Tactic.Linarith
import Mathlib.Tactic.Positivity
import StatusReport.Formatter.Basic
import StatusReport.Proofs.Number.WholeNumbers

/-! # The amounts behind values

A formatter computes with a double. This module relates it to the amount that the value stands for,
which for a machine word need not be the same.

* `Value.integer?`: the machine word behind every indirection.
* `Value.amount?`: the exact amount, of words and of finite doubles.
* `Value.number?_of_integer?`: a word is rounded to 53 significant bits.
* `Value.number?_of_amount?`: rounding to a double keeps on which side of zero an amount lies.
-/

namespace StatusReport

open Number

/-! ## The double behind a value -/

theorem Formatter.numberFor_eq_ok {v : Value} {x : Binary64} (h : v.number? = some x)
    (formatter : String) : numberFor formatter v = .ok x := by
  rw [numberFor.eq_def, h]

theorem Formatter.numberFor_eq_error {v : Value} (h : v.deref.kind ∉ [.int, .uint, .float])
    (formatter : String) :
    numberFor formatter v = .error (.notANumber formatter v.deref.kind) := by
  have missing : v.number? = none := by
    unfold Value.number?
    generalize v.deref = w at h ⊢
    cases w with
    | int | uint | float => simp [Value.kind] at h
    | nil | bool | str | list | record | ref => rfl
  rw [numberFor.eq_def, missing]

/-! ## Machine words -/

/-- The machine word behind every indirection. -/
def Value.integer? (v : Value) : Option Int :=
  match v.deref with
  | .int i => some i.toInt
  | .uint u => some u.toNat
  | _ => none

theorem Value.integer?_eq_some {v : Value} {n : Int} (h : v.integer? = some n) :
    (∃ i, v.deref = .int i ∧ n = i.toInt) ∨ ∃ u, v.deref = .uint u ∧ n = u.toNat := by
  unfold Value.integer? at h
  split at h
  next i word => exact .inl ⟨i, word, (Option.some.inj h).symm⟩
  next u word => exact .inr ⟨u, word, (Option.some.inj h).symm⟩
  next => cases h

theorem Value.natAbs_lt_of_integer? {v : Value} {n : Int} (h : v.integer? = some n) :
    n.natAbs < 2 ^ (64 : Nat) := by
  obtain ⟨i, -, rfl⟩ | ⟨u, -, rfl⟩ := Value.integer?_eq_some h
  · have low := i.le_toInt
    have high := i.toInt_lt
    omega
  · have high := u.toNat_lt
    omega

theorem Value.number?_eq_ofInt {v : Value} {n : Int} (h : v.integer? = some n) :
    v.number? = some (.ofInt n) := by
  obtain ⟨i, word, rfl⟩ | ⟨u, word, rfl⟩ := Value.integer?_eq_some h
  · rw [Value.number?, word]
  · rw [Value.number?, word]
    simp [Binary64.ofInt, Binary64.ofNat, Int.not_lt.2 (Int.natCast_nonneg u.toNat)]

/-- A machine word becomes a finite double, its magnitude rounded to 53 significant bits. -/
theorem Value.number?_of_integer? {v : Value} {n : Int} (h : v.integer? = some n) :
    ∃ x, v.number? = some x ∧ x.IsWhole (decide (n < 0)) (nearestDouble n.natAbs) :=
  ⟨.ofInt n, Value.number?_eq_ofInt h,
    Binary64.isWhole_ofFraction _ (Nat.le_of_lt (Value.natAbs_lt_of_integer? h))⟩

theorem Value.number?_of_natural {v : Value} {n : Nat} (h : v.integer? = some (n : Int)) :
    ∃ x, v.number? = some x ∧ x.IsWhole false (nearestDouble n) ∧ n < 2 ^ (64 : Nat) := by
  obtain ⟨x, number, whole⟩ := Value.number?_of_integer? h
  have bound := Value.natAbs_lt_of_integer? h
  rw [Int.natAbs_natCast] at bound whole
  rw [decide_eq_false (Int.not_lt.2 (Int.natCast_nonneg n))] at whole
  exact ⟨x, number, whole, bound⟩

/-! ## Exact amounts -/

def Number.Binary64.amount? : Binary64 → Option ℚ
  | .finite negative code =>
    let (num, den) := BinaryFormat.double.fraction code
    some (if negative then -(num / den : ℚ) else num / den)
  | _ => none

theorem Number.Binary64.IsWhole.amount? {x : Binary64} {n : Nat} (whole : x.IsWhole false n) :
    x.amount? = some (n : ℚ) := by
  obtain ⟨code, rfl, den, pos, quotient⟩ := whole
  have nonzero : (den : ℚ) ≠ 0 := Nat.cast_ne_zero.2 (Nat.ne_of_gt pos)
  simp only [Binary64.amount?, quotient, Bool.false_eq_true, if_false, Nat.cast_mul]
  rw [mul_div_cancel_right₀ _ nonzero]

/-- The exact amount of a machine word, and of a finite double. -/
def Value.amount? (v : Value) : Option ℚ :=
  match v.deref with
  | .int i => some i.toInt
  | .uint u => some u.toNat
  | .float x => x.amount?
  | _ => none

theorem Value.amount?_eq_some {v : Value} {a : ℚ} (h : v.amount? = some a) :
    (∃ n : Int, v.integer? = some n ∧ a = n) ∨ ∃ x, v.deref = .float x ∧ x.amount? = some a := by
  unfold Value.amount? at h
  split at h
  next i word => exact .inl ⟨i.toInt, by rw [Value.integer?, word], (Option.some.inj h).symm⟩
  next u word =>
    refine .inl ⟨u.toNat, by rw [Value.integer?, word], ?_⟩
    simpa using (Option.some.inj h).symm
  next x float => exact .inr ⟨x, float, h⟩
  next => cases h

/-- A test that holds of an amount of minus one or less, and not of one of zero or more. What it
    tells of those between is left open. -/
def TellsNegative (test : Bool) (a : ℚ) : Prop := (a ≤ -1 → test = true) ∧ (0 ≤ a → test = false)

theorem Number.Binary64.tellsNegative {negative : Bool}
    {code : Fin BinaryFormat.double.infinityCode} {a : ℚ}
    (h : (Binary64.finite negative code).amount? = some a) :
    TellsNegative (negative && decide (0 < wholeCode code)) a := by
  have pos := BinaryFormat.double.fraction_pos code
  simp only [amount?, Option.some.injEq] at h
  rw [wholeCode]
  generalize BinaryFormat.double.fraction code = quotient at pos h ⊢
  obtain ⟨num, den⟩ := quotient
  have magnitude : (0 : ℚ) ≤ num / den := by positivity
  -- On the left the exact quotient, on the right the whole part that the formatter looks at.
  have step : (1 : ℚ) ≤ num / den ↔ 0 < num / den := by
    rw [le_div_iff₀ (Nat.cast_pos.2 pos), one_mul, Nat.cast_le, Nat.div_pos_iff]
    omega
  cases negative with
  | false =>
    subst h
    refine ⟨fun below => ?_, fun _ => rfl⟩
    simp only [Bool.false_eq_true, if_false] at below
    linarith
  | true =>
    subst h
    simp only [if_true, Bool.true_and, TellsNegative, decide_eq_true_eq, decide_eq_false_iff_not]
    refine ⟨fun below => step.1 (by linarith), fun above => ?_⟩
    rw [← step]
    linarith

/-- The double behind an amount is finite, and its sign and whole part tell whether the amount is
    negative. Rounding a machine word does not change that. -/
theorem Value.number?_of_amount? {v : Value} {a : ℚ} (h : v.amount? = some a) :
    ∃ negative code, v.number? = some (.finite negative code) ∧
      TellsNegative (negative && decide (0 < Binary64.wholeCode code)) a := by
  obtain ⟨n, word, rfl⟩ | ⟨x, float, exact⟩ := Value.amount?_eq_some h
  · obtain ⟨_, number, code, rfl, represents⟩ := Value.number?_of_integer? word
    refine ⟨_, code, number, fun below => ?_, fun above => ?_⟩
    · have negative : n ≤ -1 := by exact_mod_cast below
      have rounded := nearestDouble_pos (n := n.natAbs) (by omega)
      simp [Binary64.wholeCode_of_represents represents, rounded]
      omega
    · have positive : 0 ≤ n := by exact_mod_cast above
      simp [Int.not_lt.2 positive]
  · cases x with
    | finite negative code =>
      exact ⟨negative, code, by rw [Value.number?, float], Binary64.tellsNegative exact⟩
    | nan => cases exact
    | infinite negative => cases exact

end StatusReport
