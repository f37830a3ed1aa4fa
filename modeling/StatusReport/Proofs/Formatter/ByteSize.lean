import StatusReport.Formatter.ByteSize
import StatusReport.Proofs.Formatter.Amounts
import StatusReport.Proofs.Number.Digits

/-! # What a size in bytes says

A size of a kibibyte or more is a number with one place and a unit. The unit is the largest one that
fits into the size before it is rounded, so the number printed is at least one; but just below the
next unit rounding carries it up to 1024.

* `pickUnit_spec`: the unit that the search ends at.
* `SaysSize`: a text of a number with one place and a unit, and what it says.
* `byteSize_of_integer`: the number and the unit of every machine word from 1024 on.
-/

namespace StatusReport.Formatter

open Number

/-! ## Units -/

/-- The units of sizes, of which each is 1024 of the one before, the first being 1024 bytes. -/
def sizeUnits : List String := ["KiB", "MiB", "GiB", "TiB", "PiB", "EiB"]

/-- If the first unit fits, then the one that is picked does and the one after it does not. -/
theorem pickUnit_spec {num den : Nat} (bytes : Nat) (unit : String) (larger : List String)
    (fits : bytes * den ≤ num) :
    ∃ k name, (unit :: larger)[k]? = some name ∧
      pickUnit num den bytes unit larger = (unitStep ^ k * bytes, name) ∧
      unitStep ^ k * bytes * den ≤ num ∧
      (k < larger.length → num < unitStep ^ (k + 1) * bytes * den) := by
  induction larger generalizing bytes unit with
  | nil => exact ⟨0, unit, rfl, by simp [pickUnit], by simpa using fits, by simp⟩
  | cons next rest ih =>
    by_cases step : unitStep * (bytes * den) ≤ num
    · have fits' : unitStep * bytes * den ≤ num := by rwa [Nat.mul_assoc]
      obtain ⟨k, name, found, picked, low, high⟩ := ih (unitStep * bytes) next fits'
      have power (j : Nat) : unitStep ^ j * (unitStep * bytes) = unitStep ^ (j + 1) * bytes := by
        rw [← Nat.mul_assoc, ← Nat.pow_succ]
      rw [power] at picked low high
      exact ⟨k + 1, name, found, by rw [pickUnit, if_pos step, picked], low,
        fun more => high (Nat.lt_of_succ_lt_succ more)⟩
    · refine ⟨0, unit, rfl, by simp [pickUnit, step], by simpa using fits, fun _ => ?_⟩
      rw [Nat.zero_add, Nat.pow_one, Nat.mul_assoc]
      exact Nat.not_le.1 step

/-! ## Texts -/

/-- A text of a number with one place after the point and a unit, which says so many tenths of the
    unit. -/
def SaysSize (text : String) (k tenths : Nat) : Prop :=
  ∃ number unit, text = .ofList number ++ " " ++ unit ∧ SpellsPlaces 1 number tenths ∧
    sizeUnits[k]? = some unit

/-- The size is measured in the unit that is picked for it, and rounded then. -/
theorem scaledSize_text {size den : Nat} (pos : 0 < den) (large : 1024 ≤ size) :
    ∃ k < 6,
      SaysSize (scaledSize (size * den) den) k (roundHalfEven (size * 10) (1024 ^ (k + 1))) ∧
      1024 ^ (k + 1) ≤ size ∧ (k < 5 → size < 1024 ^ (k + 2)) := by
  have fits : unitStep * den ≤ size * den := Nat.mul_le_mul_right den large
  obtain ⟨k, unit, found, picked, low, high⟩ := pickUnit_spec unitStep "KiB" largerUnits fits
  have bounded : k < 6 := (List.getElem?_eq_some_iff.1 found).1
  have power (j : Nat) : unitStep ^ j * unitStep = 1024 ^ (j + 1) := (Nat.pow_succ ..).symm
  rw [power] at picked low high
  have spelt := spells_fixedText Nat.one_pos (size * den) (1024 ^ (k + 1) * den)
  rw [Nat.pow_one, Nat.mul_right_comm, roundHalfEven_mul_right _ _ pos] at spelt
  refine ⟨k, bounded, ⟨_, unit, ?_, spelt, found⟩, ?_, fun more => ?_⟩
  · rw [scaledSize, picked]
  · exact Nat.le_of_mul_le_mul_right low pos
  · exact Nat.lt_of_mul_lt_mul_right (high more)

/-- The tenths of what is at least one unit and less than 1024 of them. They are carried up to 1024
    units exactly where less than half a tenth is missing to that, or just half. -/
theorem tenths_bounds {size unit : Nat} (low : unit ≤ size) (high : size < 1024 * unit) :
    10 ≤ roundHalfEven (size * 10) unit ∧ roundHalfEven (size * 10) unit ≤ 10240 ∧
      (roundHalfEven (size * 10) unit = 10240 ↔ 20479 * unit ≤ 20 * size) := by
  have pos : 0 < unit := by omega
  have one : 10 ≤ size * 10 / unit := (Nat.le_div_iff_mul_le pos).2 (by omega)
  have below := div_le_roundHalfEven (size * 10) unit
  have above : roundHalfEven (size * 10) unit ≤ 10240 := roundHalfEven_le_of_le pos (by omega)
  have carried := lt_roundHalfEven_iff pos (q := 10239) (by decide) (size * 10)
  omega

theorem sizeText_whole (v : Value) {x : Binary64} {size : Nat} (whole : x.IsWhole false size)
    (large : 1024 ≤ size) : ∃ den, 0 < den ∧ sizeText v x = scaledSize (size * den) den := by
  have kibibyte : x.ltNat unitStep = false := by
    rw [whole.ltNat]
    exact decide_eq_false (Nat.not_lt.2 large)
  obtain ⟨code, rfl, den, pos, quotient⟩ := whole
  refine ⟨den, pos, ?_⟩
  rw [sizeText, kibibyte, if_neg Bool.false_ne_true]
  simp only [quotient]

theorem byteSize_apply (v : Value) (r : Record) :
    byteSize.apply v r = (numberFor byteSizeId v).map (sizeText v) := rfl

/-- A machine word from 1024 on is shown with one place, in the largest unit that fits into it after
    rounding to 53 significant bits. The number is at least 1.0. It is less than 1024.0 unless there
    are at least 1023.95 of the unit, and in the last unit it is at most 16.0. -/
theorem byteSize_of_integer (v : Value) (r : Record) {n : Nat} (word : v.integer? = some (n : Int))
    (large : 1024 ≤ n) :
    ∃ text k tenths, byteSize.apply v r = .ok text ∧ SaysSize text k tenths ∧ k < 6 ∧
      1024 ^ (k + 1) ≤ nearestDouble n ∧ (k < 5 → nearestDouble n < 1024 ^ (k + 2)) ∧
      tenths = roundHalfEven (nearestDouble n * 10) (1024 ^ (k + 1)) ∧
      10 ≤ tenths ∧ tenths ≤ 10240 ∧ (k = 5 → tenths ≤ 160) ∧
      (tenths = 10240 ↔ 20479 * 1024 ^ (k + 1) ≤ 20 * nearestDouble n) := by
  obtain ⟨x, number, whole, bound⟩ := Value.number?_of_natural word
  have rounded := Binary64.nearestDouble_le_word (Nat.le_of_lt bound)
  have kibibyte := nearestDouble_mono large
  rw [nearestDouble_of_isDouble (isDouble_of_le (by decide))] at kibibyte
  obtain ⟨den, pos, shown⟩ := sizeText_whole v whole kibibyte
  obtain ⟨k, bounded, text, low, high⟩ := scaledSize_text pos kibibyte
  -- Nothing is larger than the last unit, but a word is no more than sixteen of it.
  have last : k = 5 → nearestDouble n ≤ 16 * 1024 ^ (k + 1) := by
    rintro rfl
    exact rounded
  have below : nearestDouble n < 1024 * 1024 ^ (k + 1) := by
    rcases Nat.lt_or_ge k 5 with more | none
    · rw [← Nat.pow_succ']
      exact high more
    · have unit : 0 < 1024 ^ (k + 1) := Nat.pow_pos (by decide)
      have largest := last (by omega)
      omega
  obtain ⟨atLeast, atMost, carried⟩ := tenths_bounds low below
  refine ⟨_, k, _, ?_, text, bounded, low, high, rfl, atLeast, atMost, fun largest => ?_, carried⟩
  · rw [byteSize_apply, numberFor_eq_ok number, ← shown]
    rfl
  · exact roundHalfEven_le_of_le (Nat.pow_pos (by decide)) (by have := last largest; omega)

/-- A kibibyte and a half, through an indirection, is far from being carried up. -/
theorem byteSize_of_integer_kibibytes :
    ∃ text k tenths, byteSize.apply (.ref (.uint 1536)) default = .ok text ∧
      SaysSize text k tenths ∧ 10 ≤ tenths ∧ tenths < 10240 := by
  obtain ⟨text, k, tenths, shown, size, -, -, -, -, atLeast, atMost, -, carried⟩ :=
    byteSize_of_integer (.ref (.uint 1536)) default (n := 1536) rfl (by decide)
  have exact := nearestDouble_of_isDouble (isDouble_of_le (n := 1536) (by decide))
  have unit : 1024 ^ 1 ≤ 1024 ^ (k + 1) := Nat.pow_le_pow_right (by decide) (Nat.le_add_left 1 k)
  rw [exact] at carried
  exact ⟨text, k, tenths, shown, size, atLeast, by omega⟩

/-- A byte less than a mebibyte is carried up to 1024.0 kibibytes. -/
theorem byteSize_carries :
    byteSize.apply (.int 1048575) default = .ok "1024.0 KiB" ∧ SaysSize "1024.0 KiB" 0 10240 := by
  have printed : fixedText 1 1048575 1024 = "1024.0".toList := by decide
  have spelt := spells_fixedText Nat.one_pos 1048575 1024
  rw [printed] at spelt
  exact ⟨by decide, "1024.0".toList, "KiB", by decide, spelt, rfl⟩

end StatusReport.Formatter
