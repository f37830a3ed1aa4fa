import Mathlib.Algebra.Order.Field.Rat
import StatusReport.Proofs.Number.Digits

/-! # Printed numbers as decimal literals

The texts that numbers are printed as are decimal literals, so the reader of literals reads them
back: a whole number with its sign, and digits around a point.

* `Literal.amount`: the exact number that a literal stands for.
* `Literal.read?_intText`, `Literal.amount_intText`: whole numbers.
* `Literal.read?_of_spellsPlaces`: digits around a point.
-/

namespace StatusReport.Number

theorem spanDigits_of_decimal {ds : List Char} (decimal : ∀ c ∈ ds, (digit? c).isSome) :
    spanDigits ds = (ds, []) := by
  induction ds with
  | nil => rfl
  | cons d ds ih =>
    have tail := ih fun c h => decimal c (List.mem_cons_of_mem d h)
    simp [spanDigits, decimal d List.mem_cons_self, tail]

theorem ne_of_digit {c mark : Char} (h : (digit? c).isSome) (stops : digit? mark = none) :
    c ≠ mark := by
  rintro rfl
  simp [stops] at h

namespace Literal

/-- The exact number that a literal stands for. -/
def amount (l : Literal) : ℚ :=
  (if l.negative then -(l.digits : ℚ) else l.digits) * 10 ^ l.exponent

theorem sign_of_digit {c : Char} (h : (digit? c).isSome) (rest : List Char) :
    sign (c :: rest) = (false, c :: rest) := by
  have minus : c ≠ '-' := ne_of_digit h (by decide)
  have plus : c ≠ '+' := ne_of_digit h (by decide)
  unfold sign
  split
  next cut => exact absurd (List.cons.inj cut).1 minus
  next cut => exact absurd (List.cons.inj cut).1 plus
  next => rfl

theorem sign_append {ds : List Char} (nonempty : ds ≠ []) (decimal : ∀ c ∈ ds, (digit? c).isSome)
    (rest : List Char) : sign (ds ++ rest) = (false, ds ++ rest) := by
  obtain ⟨d, ds, rfl⟩ := List.exists_cons_of_ne_nil nonempty
  exact sign_of_digit (decimal d List.mem_cons_self) (ds ++ rest)

theorem sign_signed (negative : Bool) {ds : List Char} {n : Nat} (spelt : Spells ds n) :
    sign (signed negative ds) = (negative, ds) := by
  cases negative with
  | true => rfl
  | false => simpa [signed] using sign_append spelt.nonempty spelt.decimal []

theorem read?_signed (negative : Bool) {ds : List Char} {n : Nat} (spelt : Spells ds n) :
    read? (signed negative ds) = some ⟨negative, n, 0⟩ := by
  have filled : ds.isEmpty = false := by simpa using spelt.nonempty
  simp [read?, sign_signed negative spelt, spanDigits_of_decimal spelt.decimal, readFraction,
    filled, readExponent?, spelt.value]

/-- What has digits around a point is read with one power of ten less for every place. -/
theorem read?_of_spellsPlaces {places n : Nat} {text : List Char}
    (spelt : SpellsPlaces places text n) : read? text = some ⟨false, n, -places⟩ := by
  obtain ⟨whole, fraction, rfl, nonempty, length, digits⟩ := spelt
  have front : ∀ c ∈ whole, (digit? c).isSome := fun c h =>
    digits.decimal c (List.mem_append_left _ h)
  have back : ∀ c ∈ fraction, (digit? c).isSome := fun c h =>
    digits.decimal c (List.mem_append_right _ h)
  have filled : whole.isEmpty = false := by simpa using nonempty
  simp [read?, sign_append nonempty front, spanDigits_append front (show digit? '.' = none by decide),
    readFraction, spanDigits_of_decimal back, filled, readExponent?, digits.value, length]

theorem read?_intText (n : Int) :
    read? (intText n) = some ⟨decide (n < 0), n.natAbs, 0⟩ :=
  read?_signed _ (spells_digits n.natAbs)

theorem amount_intText (n : Int) : (read? (intText n)).map amount = some (n : ℚ) := by
  rw [read?_intText, Option.map_some, amount, zpow_zero, mul_one, ← Int.cast_natCast]
  by_cases negative : n < 0
  · simp [negative, Int.ofNat_natAbs_of_nonpos (Int.le_of_lt negative)]
  · simp [negative, Int.natAbs_of_nonneg (Int.not_lt.1 negative)]

end Literal

end StatusReport.Number
