import Mathlib.Algebra.Group.Nat.Defs
import Mathlib.Data.List.Basic
import StatusReport.Number.Decimal

/-! # Printed numbers read back

What a text of decimal digits says, and that the texts which are printed say the number they are
made from.

* `Spells`: a text of digits only, and its number.
* `spells_digits`, `spells_paddedDigits`: decimal digits, also with zeros in front.
* `Spells.append`, `Spells.split`: digits that follow others, and digits in front of something else.
* `SpellsPlaces`, `spells_fixedText`: digits around a point.
* `Binary64.fixed_ne_empty`: no double is printed as nothing.
-/

namespace StatusReport.Number

/-! ## Digits -/

/-- A text of decimal digits, and the number that it says. -/
structure Spells (ds : List Char) (n : Nat) : Prop where
  nonempty : ds ≠ []
  decimal : ∀ c ∈ ds, (digit? c).isSome
  value : valueOfDigits ds = n

theorem Spells.unique {ds : List Char} {m n : Nat} (h : Spells ds m) (h' : Spells ds n) : m = n :=
  h.value.symm.trans h'.value

theorem digit?_of_isDigit {c : Char} (h : c.isDigit = true) :
    digit? c = some (c.toNat - '0'.toNat) := by
  simp only [Char.isDigit, Bool.and_eq_true, decide_eq_true_eq] at h
  exact if_pos h

theorem spanDigits_append {ds : List Char} (decimal : ∀ c ∈ ds, (digit? c).isSome) {mark : Char}
    (stops : digit? mark = none) (rest : List Char) :
    spanDigits (ds ++ mark :: rest) = (ds, mark :: rest) := by
  induction ds with
  | nil => simp [spanDigits, stops]
  | cons d ds ih =>
    have tail := ih fun c h => decimal c (List.mem_cons_of_mem d h)
    simp [spanDigits, decimal d List.mem_cons_self, tail]

/-- Digits in front of something else end in one way only. -/
theorem Spells.split {ds es rest rest' : List Char} {m n : Nat} {mark : Char}
    (first : Spells ds m) (second : Spells es n) (stops : digit? mark = none)
    (same : ds ++ mark :: rest = es ++ mark :: rest') : m = n ∧ rest = rest' := by
  have read := congrArg spanDigits same
  rw [spanDigits_append first.decimal stops, spanDigits_append second.decimal stops] at read
  obtain ⟨rfl, tail⟩ := Prod.mk.inj read
  exact ⟨first.unique second, (List.cons.inj tail).2⟩

theorem valueOfDigits_append (ds es : List Char) :
    valueOfDigits (ds ++ es) = valueOfDigits ds * 10 ^ es.length + valueOfDigits es := by
  simp only [valueOfDigits, List.foldl_append]
  generalize ds.foldl (fun n c => 10 * n + (digit? c).getD 0) 0 = start
  -- The digits read so far are moved on by every further one, whatever they are.
  suffices ∀ m k, es.foldl (fun n c => 10 * n + (digit? c).getD 0) (m + k) =
      m * 10 ^ es.length + es.foldl (fun n c => 10 * n + (digit? c).getD 0) k by
    simpa using this start 0
  induction es with
  | nil => simp
  | cons c es ih =>
    intro m k
    simp only [List.foldl_cons, List.length_cons, Nat.pow_succ']
    rw [show 10 * (m + k) + (digit? c).getD 0 = 10 * m + (10 * k + (digit? c).getD 0) by omega, ih,
      ← Nat.mul_assoc, Nat.mul_comm m 10]

theorem Spells.append {ds es : List Char} {m n : Nat} (first : Spells ds m) (last : Spells es n) :
    Spells (ds ++ es) (m * 10 ^ es.length + n) where
  nonempty := by simp [first.nonempty]
  decimal c h := by
    rcases List.mem_append.1 h with h | h
    · exact first.decimal c h
    · exact last.decimal c h
  value := by rw [valueOfDigits_append, first.value, last.value]

theorem spells_digits (n : Nat) : Spells (digits n) n where
  nonempty := Nat.toDigits_ne_nil
  decimal c h := by
    rw [digit?_of_isDigit (Nat.isDigit_of_mem_toDigits (by decide) (by decide) h)]
    rfl
  value := by
    have read := Nat.ofDigitChars_toDigits (b := 10) (n := n) (by decide) (by decide)
    rw [Nat.ofDigitChars_eq_foldl] at read
    refine Eq.trans (List.foldl_ext _ _ 0 ?_) read
    intro m c h
    rw [digit?_of_isDigit (Nat.isDigit_of_mem_toDigits (by decide) (by decide) h)]
    rfl

theorem valueOfDigits_zeros (k : Nat) : valueOfDigits (List.replicate k '0') = 0 := by
  induction k with
  | zero => rfl
  | succ k ih =>
    rw [List.replicate_succ', valueOfDigits_append, ih]
    rfl

theorem spells_paddedDigits (width n : Nat) : Spells (paddedDigits width n) n where
  nonempty := by simp [paddedDigits, (spells_digits n).nonempty]
  decimal c h := by
    rcases List.mem_append.1 h with h | h
    · obtain ⟨-, rfl⟩ := List.mem_replicate.1 h
      rfl
    · exact (spells_digits n).decimal c h
  value := by
    rw [paddedDigits, valueOfDigits_append, valueOfDigits_zeros, (spells_digits n).value]
    simp

theorem length_paddedDigits (width n : Nat) :
    (paddedDigits width n).length = max width (digits n).length := by
  simp only [paddedDigits, List.length_append, List.length_replicate]
  omega

/-! ## Digits around a point -/

/-- A decimal text with a number of places after its point, and the number that it says when the
    point is left out. -/
def SpellsPlaces (places : Nat) (text : List Char) (n : Nat) : Prop :=
  ∃ whole fraction, text = whole ++ '.' :: fraction ∧ whole ≠ [] ∧ fraction.length = places ∧
    Spells (whole ++ fraction) n

/-- `fixedText` spells the quotient rounded to the nearest multiple of its last place. -/
theorem spells_fixedText {places : Nat} (some : 0 < places) (num den : Nat) :
    SpellsPlaces places (fixedText places num den) (roundHalfEven (num * 10 ^ places) den) := by
  generalize scaled : roundHalfEven (num * 10 ^ places) den = n
  have short : (digits (n % 10 ^ places)).length ≤ places :=
    (Nat.length_toDigits_le_iff (by decide) some).2 (Nat.mod_lt _ (Nat.pow_pos (by decide)))
  have length : (paddedDigits places (n % 10 ^ places)).length = places := by
    rw [length_paddedDigits]
    omega
  have spelt := (spells_digits (n / 10 ^ places)).append
    (spells_paddedDigits places (n % 10 ^ places))
  rw [length, Nat.div_add_mod'] at spelt
  refine ⟨digits (n / 10 ^ places), paddedDigits places (n % 10 ^ places), ?_,
    (spells_digits _).nonempty, length, spelt⟩
  rw [fixedText, Nat.pow_eq, scaled, if_neg (Nat.ne_of_gt some)]

/-! ## Texts of numbers are not empty -/

theorem signed_ne_nil {text : List Char} (filled : text ≠ []) (negative : Bool) :
    signed negative text ≠ [] := by
  cases negative <;> simp [signed, filled]

theorem Binary64.fixed_ne_empty {places : Nat} (some : 0 < places) (x : Binary64) :
    x.fixed places ≠ "" := by
  cases x with
  | nan => simp [fixed]
  | infinite negative => cases negative <;> simp [fixed, infinityText, signed]
  | finite negative code =>
    obtain ⟨whole, fraction, spelt, -⟩ := spells_fixedText some
      (BinaryFormat.double.fraction code).1 (BinaryFormat.double.fraction code).2
    simpa [fixed] using signed_ne_nil (spelt ▸ by simp) negative

end StatusReport.Number
