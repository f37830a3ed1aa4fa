import Mathlib.Tactic.Ring
import StatusReport.Proofs.Formatter.ByteSize
import StatusReport.Proofs.Number.Literals

/-! # Sizes keep the order of what they measure

A size is read back as the number that stands in front of its unit, times the bytes of the unit. A
smaller word never reads as a larger size, though a word is rounded to a double first, the unit is
picked before the quotient is rounded, and that can be carried up to 1024 of the unit: just as many
bytes as the next unit has.

* `readSize?`: the bytes that a text says.
* `byteSize_below`, `byteSize_above`: the text on both sides of a kibibyte.
* `scaledTenths_mono`: the order across units.
* `sizes_keep_order`: any two machine words.
-/

namespace StatusReport.Formatter

open Number

/-! ## Reading sizes -/

def unitBytes? (unit : String) : Option Nat := (("B" :: sizeUnits).idxOf? unit).map (unitStep ^ ·)

/-- The bytes that a text of a number and a unit says. -/
def readSize? (text : String) : Option ℚ := do
  let number ← Literal.read? (text.toList.takeWhile (· ≠ ' '))
  let bytes ← unitBytes? (.ofList ((text.toList.dropWhile (· ≠ ' ')).drop 1))
  return number.amount * bytes

theorem readSize?_append {number : List Char} {unit : String} {l : Literal} {bytes : Nat}
    (blankless : ' ' ∉ number) (read : Literal.read? number = some l)
    (known : unitBytes? unit = some bytes) :
    readSize? (.ofList number ++ " " ++ unit) = some (l.amount * bytes) := by
  have text : (String.ofList number ++ " " ++ unit).toList = number ++ ' ' :: unit.toList := by simp
  have front : ∀ c ∈ number, decide (c ≠ ' ') = true := by
    intro c member
    simpa using ne_of_mem_of_not_mem member blankless
  simp only [readSize?, text, List.takeWhile_append_of_pos front,
    List.dropWhile_append_of_pos front]
  simp [read, known]

theorem blank_not_mem_of_decimal {ds : List Char} (decimal : ∀ c ∈ ds, (digit? c).isSome) :
    ' ' ∉ ds := fun member => ne_of_digit (decimal _ member) (by decide : digit? ' ' = none) rfl

theorem readSize?_bytes (n : Int) : readSize? (.ofList (intText n) ++ " B") = some (n : ℚ) := by
  have blankless : ' ' ∉ intText n := by
    rw [intText, signed]
    split <;> simp [blank_not_mem_of_decimal (spells_digits n.natAbs).decimal]
  have unit : unitBytes? "B" = some 1 := by decide
  have read := readSize?_append blankless (Literal.read?_intText n) unit
  have amount := Literal.amount_intText n
  rw [Literal.read?_intText, Option.map_some, Option.some_inj] at amount
  rwa [amount, Nat.cast_one, mul_one, String.append_assoc, show " " ++ "B" = " B" by decide] at read

theorem unitBytes?_of_sizeUnits {k : Nat} {unit : String} (found : sizeUnits[k]? = some unit) :
    unitBytes? unit = some (1024 ^ (k + 1)) := by
  obtain ⟨inside, rfl⟩ := List.getElem?_eq_some_iff.1 found
  have units : ∀ i : Fin 6, unitBytes? sizeUnits[i] = some (1024 ^ (i.val + 1)) := by decide
  exact units ⟨k, inside⟩

theorem readSize?_of_saysSize {text : String} {k tenths : Nat} (size : SaysSize text k tenths) :
    readSize? text = some ((tenths * 1024 ^ (k + 1) : Nat) / 10 : ℚ) := by
  obtain ⟨number, unit, rfl, spelt, found⟩ := size
  have blankless : ' ' ∉ number := by
    obtain ⟨whole, fraction, rfl, -, -, digits⟩ := spelt
    have plain := blank_not_mem_of_decimal digits.decimal
    simp only [List.mem_append, List.mem_cons, not_or] at plain ⊢
    exact ⟨plain.1, by decide, plain.2⟩
  rw [readSize?_append blankless (Literal.read?_of_spellsPlaces spelt)
    (unitBytes?_of_sizeUnits found), Literal.amount, Nat.cast_mul]
  simp
  ring

/-! ## On both sides of a kibibyte -/

/-- Rounding a machine word does not move it across a kibibyte. -/
theorem number?_below_iff {v : Value} {n : Int} (word : v.integer? = some n) :
    ∃ x, v.number? = some x ∧ x.ltNat unitStep = decide (n < 1024) := by
  rcases Int.lt_or_le n 0 with negative | natural
  · refine ⟨_, Value.number?_eq_ofInt word, ?_⟩
    rw [decide_eq_true (by omega : n < 1024)]
    refine Binary64.ltNat_of_isNegative ?_ unitStep
    rw [Binary64.ofInt, Binary64.isNegative_ofFraction]
    simp
    omega
  · obtain ⟨m, rfl⟩ := Int.eq_ofNat_of_zero_le natural
    obtain ⟨x, number, whole, -⟩ := Value.number?_of_natural word
    refine ⟨x, number, ?_⟩
    rw [whole.ltNat, decide_eq_decide, nearestDouble_lt_iff (by decide)]
    exact Nat.cast_lt.symm

theorem toInt_toInt64 {u : UInt64} (small : u.toNat < 1024) : u.toInt64.toInt = u.toNat := by
  have bound : u.toBitVec.toNat < 1024 := small
  show u.toBitVec.toInt = u.toBitVec.toNat
  rw [BitVec.toInt_eq_toNat_cond, if_pos (by omega)]

theorem wholeBytes_word {v : Value} {n : Int} (word : v.integer? = some n) (small : n < 1024)
    (x : Binary64) : wholeBytes v x = .ofList (intText n) ++ " B" := by
  obtain ⟨i, found, rfl⟩ | ⟨u, found, rfl⟩ := Value.integer?_eq_some word
  · rw [wholeBytes, found]
  · rw [wholeBytes, found]
    simp only [toInt_toInt64 (by omega : u.toNat < 1024)]

theorem byteSize_below {v : Value} {n : Int} (word : v.integer? = some n) (small : n < 1024)
    (r : Record) : byteSize.apply v r = .ok (.ofList (intText n) ++ " B") := by
  obtain ⟨x, number, below⟩ := number?_below_iff word
  rw [decide_eq_true small] at below
  rw [byteSize_apply, numberFor_eq_ok number, ← wholeBytes_word word small x]
  simp [Except.map, sizeText, below]

/-! ## Order across units -/

/-- The unit that is picked for a size: it fits, and unless it is the last one, the next does not. -/
structure PickedUnit (size k : Nat) : Prop where
  bounded : k < 6
  fits : 1024 ^ (k + 1) ≤ size
  largest : k < 5 → size < 1024 ^ (k + 2)

/-- What a size says after rounding, in tenths of a byte. -/
def scaledTenths (size k : Nat) : Nat :=
  roundHalfEven (size * 10) (1024 ^ (k + 1)) * 1024 ^ (k + 1)

theorem byteSize_above {v : Value} {n : Nat} (word : v.integer? = some (n : Int))
    (large : 1024 ≤ n) (r : Record) :
    ∃ text k, byteSize.apply v r = .ok text ∧ PickedUnit (nearestDouble n) k ∧
      readSize? text = some (scaledTenths (nearestDouble n) k / 10 : ℚ) := by
  obtain ⟨x, number, whole, -⟩ := Value.number?_of_natural word
  have kibibyte : 1024 ≤ nearestDouble n := by
    rw [← Nat.not_lt, nearestDouble_lt_iff (by decide)]
    omega
  obtain ⟨den, pos, shown⟩ := sizeText_whole v whole kibibyte
  obtain ⟨k, bounded, size, fits, largest⟩ := scaledSize_text pos kibibyte
  refine ⟨_, k, ?_, ⟨bounded, fits, largest⟩, readSize?_of_saysSize size⟩
  rw [byteSize_apply, numberFor_eq_ok number, ← shown]
  rfl

section Order

variable {size size' k k' : Nat}

theorem PickedUnit.le_scaledTenths (picked : PickedUnit size k) :
    10 * 1024 ^ (k + 1) ≤ scaledTenths size k := by
  have unit : 0 < 1024 ^ (k + 1) := Nat.pow_pos (by decide)
  have whole : 10 ≤ size * 10 / 1024 ^ (k + 1) := by
    rw [Nat.le_div_iff_mul_le unit, Nat.mul_comm]
    exact Nat.mul_le_mul_right 10 picked.fits
  exact Nat.mul_le_mul_right _ (Nat.le_trans whole (div_le_roundHalfEven _ _))

/-- What is carried up ends where the next unit begins. -/
theorem PickedUnit.scaledTenths_le (picked : PickedUnit size k) (more : k < 5) :
    scaledTenths size k ≤ 10 * 1024 ^ (k + 2) := by
  have below := picked.largest more
  rw [Nat.pow_succ'] at below
  obtain ⟨-, atMost, -⟩ := tenths_bounds picked.fits below
  calc scaledTenths size k
      ≤ 10240 * 1024 ^ (k + 1) := Nat.mul_le_mul_right _ atMost
    _ = 10 * 1024 ^ (k + 2) := by rw [Nat.pow_succ' (m := 1024) (n := k + 1), ← Nat.mul_assoc]

theorem scaledTenths_mono (picked : PickedUnit size k) (picked' : PickedUnit size' k')
    (le : size ≤ size') : scaledTenths size k ≤ scaledTenths size' k' := by
  have bounded := picked.bounded
  have bounded' := picked'.bounded
  rcases Nat.lt_trichotomy k k' with smaller | rfl | larger
  · calc scaledTenths size k
        ≤ 10 * 1024 ^ (k + 2) := picked.scaledTenths_le (by omega)
      _ ≤ 10 * 1024 ^ (k' + 1) :=
        Nat.mul_le_mul_left 10 (Nat.pow_le_pow_right (by decide) (by omega))
      _ ≤ scaledTenths size' k' := picked'.le_scaledTenths
  · have unit : 0 < 1024 ^ (k + 1) := Nat.pow_pos (by decide)
    exact Nat.mul_le_mul_right _ (roundHalfEven_mono unit (Nat.mul_le_mul_right 10 le))
  · -- The larger unit would fit into the larger size as well.
    have fits := picked.fits
    have largest := picked'.largest (by omega)
    have units : 1024 ^ (k' + 2) ≤ 1024 ^ (k + 1) := Nat.pow_le_pow_right (by decide) (by omega)
    omega

end Order

/-! ## Machine words -/

def ReadsAs (v : Value) (r : Record) (size : ℚ) : Prop :=
  ∃ text, byteSize.apply v r = .ok text ∧ readSize? text = some size

theorem readsAs_below {v : Value} {n : Int} (word : v.integer? = some n) (small : n < 1024)
    (r : Record) : ReadsAs v r n :=
  ⟨_, byteSize_below word small r, readSize?_bytes n⟩

theorem readsAs_above {v : Value} {n : Nat} (word : v.integer? = some (n : Int))
    (large : 1024 ≤ n) (r : Record) :
    ∃ k, PickedUnit (nearestDouble n) k ∧ ReadsAs v r (scaledTenths (nearestDouble n) k / 10) := by
  obtain ⟨text, k, shown, picked, read⟩ := byteSize_above word large r
  exact ⟨k, picked, text, shown, read⟩

theorem PickedUnit.kibibyte_le {size k : Nat} (picked : PickedUnit size k) :
    (1024 : ℚ) ≤ scaledTenths size k / 10 := by
  have unit : 1024 ^ 1 ≤ 1024 ^ (k + 1) := Nat.pow_le_pow_right (by decide) (Nat.le_add_left 1 k)
  have tenths := picked.le_scaledTenths
  rw [le_div_iff₀ (by norm_num)]
  exact_mod_cast (by omega : 1024 * 10 ≤ scaledTenths size k)

/-- An unsigned word that passes for less than a kibibyte is one. -/
theorem toInt64_of_below {v : Value} {u : UInt64} {x : Binary64} (found : v.deref = .uint u)
    (number : v.number? = some x) (below : x.ltNat unitStep = true) :
    u.toInt64.toInt = u.toNat := by
  have word : v.integer? = some (u.toNat : Int) := by rw [Value.integer?, found]
  obtain ⟨y, same, test⟩ := number?_below_iff word
  cases number.symm.trans same
  rw [below, eq_comm, decide_eq_true_eq] at test
  exact toInt_toInt64 (by omega)

/-- Whatever two machine words are shown as is read back in their order, and a word below a kibibyte
    is read back as itself. The unsigned words that pass for less than a kibibyte stay what they are
    as signed ones. -/
theorem sizes_keep_order {v w : Value} (r s : Record) {a b : Int} (smaller : v.integer? = some a)
    (larger : w.integer? = some b) (le : a ≤ b) :
    ∃ size size', ReadsAs v r size ∧ ReadsAs w s size' ∧ size ≤ size' ∧ (a < 1024 → size = a) ∧
      ∀ u x, v.deref = .uint u → v.number? = some x → x.ltNat unitStep = true →
        u.toInt64.toInt = u.toNat := by
  have cast := fun u x => @toInt64_of_below v u x
  -- Both are below a kibibyte, or one of them is, or neither: three ways of reading them back.
  rcases Int.lt_or_le b 1024 with small | large
  · refine ⟨a, b, readsAs_below smaller (by omega) r, readsAs_below larger small s, ?_, fun _ => rfl,
      cast⟩
    exact_mod_cast le
  · obtain ⟨n, rfl⟩ := Int.eq_ofNat_of_zero_le (by omega : 0 ≤ b)
    obtain ⟨k', picked', shown'⟩ := readsAs_above larger (by omega) s
    rcases Int.lt_or_le a 1024 with small | large
    · refine ⟨a, _, readsAs_below smaller small r, shown', ?_, fun _ => rfl, cast⟩
      have below : (a : ℚ) ≤ 1024 := by exact_mod_cast Int.le_of_lt small
      exact below.trans picked'.kibibyte_le
    · obtain ⟨m, rfl⟩ := Int.eq_ofNat_of_zero_le (by omega : 0 ≤ a)
      obtain ⟨k, picked, shown⟩ := readsAs_above smaller (by omega) r
      refine ⟨_, _, shown, shown', ?_, fun small => absurd small (by omega), cast⟩
      have order := scaledTenths_mono picked picked' (nearestDouble_mono (Int.ofNat_le.1 le))
      have tenths : (scaledTenths (nearestDouble m) k : ℚ) ≤ scaledTenths (nearestDouble n) k' := by
        exact_mod_cast order
      gcongr

/-- A byte less than a mebibyte is shown as 1024.0 kibibytes, which reads as no more than the
    mebibyte does. A negative word is read back as it is. -/
theorem sizes_keep_order_mebibyte :
    (∃ size size', ReadsAs (.int 1048575) default size ∧
      ReadsAs (.ref (.uint 1048576)) default size' ∧ size ≤ size') ∧
    ReadsAs (.int (-5)) default (-5) := by
  constructor
  · obtain ⟨size, size', first, second, order, -, -⟩ :=
      @sizes_keep_order (.int 1048575) (.ref (.uint 1048576)) default default 1048575 1048576 rfl rfl
        (by decide)
    exact ⟨size, size', first, second, order⟩
  · obtain ⟨size, -, shown, -, -, exact, -⟩ :=
      @sizes_keep_order (.int (-5)) (.uint 3) default default (-5) 3 rfl rfl (by decide)
    have same := exact (by decide)
    rw [same] at shown
    exact_mod_cast shown

end StatusReport.Formatter
