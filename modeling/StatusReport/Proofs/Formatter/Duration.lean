import StatusReport.Formatter.Duration
import StatusReport.Proofs.Formatter.Amounts
import StatusReport.Proofs.Number.Digits

/-! # What a length of time says

The text of a length of time can be read back. What it says is the number of seconds after it became
a double and then a machine word again: exact where 53 significant bits are enough, else the nearest
number for which they are.

* `IsClock`: a text of hours, minutes and seconds, and the seconds that it says.
* `isClock_clock`, `IsClock.unique`: every number of seconds has such a text, which says no other.
* `duration_of_amount`: what is refused, what is accepted, and what the text says.
-/

namespace StatusReport.Formatter

open Number

/-! ## Clock texts -/

/-- Hours, minutes and seconds of two digits or more, of which the last two are below sixty, and the
    seconds that they amount to. -/
def IsClock (text : String) (total : Nat) : Prop :=
  ∃ hours minutes seconds h m s,
    text = .ofList (hours ++ ':' :: minutes ++ ':' :: seconds) ∧
    (Spells hours h ∧ 2 ≤ hours.length) ∧ (Spells minutes m ∧ 2 ≤ minutes.length) ∧
    (Spells seconds s ∧ 2 ≤ seconds.length) ∧
    m < 60 ∧ s < 60 ∧ 3600 * h + 60 * m + s = total

theorem isClock_clock (total : Nat) : IsClock (clock total) total := by
  have part (n : Nat) : Spells (paddedDigits 2 n) n ∧ 2 ≤ (paddedDigits 2 n).length := by
    refine ⟨spells_paddedDigits 2 n, ?_⟩
    rw [length_paddedDigits]
    exact Nat.le_max_left ..
  exact ⟨_, _, _, _, _, _, rfl, part _, part _, part _, by omega, by omega, by omega⟩

theorem IsClock.unique {text : String} {total total' : Nat} (first : IsClock text total)
    (second : IsClock text total') : total = total' := by
  obtain ⟨hours, minutes, seconds, h, m, s, rfl, ⟨readH, -⟩, ⟨readM, -⟩, ⟨readS, -⟩, -, -, rfl⟩ :=
    first
  obtain ⟨hours', minutes', seconds', h', m', s', same, ⟨readH', -⟩, ⟨readM', -⟩, ⟨readS', -⟩, -, -,
    rfl⟩ := second
  have colon : digit? ':' = none := by decide
  have texts := String.ofList_injective same
  rw [List.append_assoc, List.append_assoc] at texts
  obtain ⟨rfl, rest⟩ := readH.split readH' colon texts
  obtain ⟨rfl, rfl⟩ := readM.split readM' colon rest
  rw [readS.unique readS']

/-! ## Signs -/

theorem duration_apply (v : Value) (r : Record) :
    duration.apply v r = (numberFor durationId v).bind durationText := rfl

theorem duration_of_number {v : Value} {x : Binary64} (number : v.number? = some x) (r : Record) :
    duration.apply v r = durationText x := by
  rw [duration_apply, numberFor_eq_ok number]
  rfl

/-- The sign is looked at when the fraction is gone. -/
theorem durationText_finite (negative : Bool) (code : Fin BinaryFormat.double.infinityCode) :
    durationText (.finite negative code) =
      if negative && decide (0 < Binary64.wholeCode code) then
        .error (.negativeDuration durationId (Binary64.finite negative code).truncate)
      else .ok (clock (Binary64.finite negative code).truncate.toUInt64.toNat) := by
  rw [durationText, ← Binary64.isNegative_ofFraction]
  rfl

theorem durationText_whole {x : Binary64} {n : Nat} (whole : x.IsWhole false n)
    (isDouble : IsDouble n) (word : n ≤ 2 ^ (64 : Nat)) :
    durationText x = .ok (clock (min n (2 ^ (64 : Nat) - 1))) := by
  have truncated := whole.truncate isDouble word
  have positive : x.truncate.isNegative = false := by
    obtain ⟨code, number, -⟩ := truncated
    rw [number]
    rfl
  rw [durationText, positive, if_neg Bool.false_ne_true, truncated.toUInt64]

/-- Lengths of time are refused for what is no number and for numbers of minus one or less, and not
    for finite numbers of zero or more. A machine word that is not negative is shown as the nearest
    number with 53 significant bits, or as the greatest word if that is no word any more; so it is
    shown exactly where it has no more bits than those. -/
theorem duration_of_amount (v : Value) (r : Record) :
    (v.deref.kind ∉ [.int, .uint, .float] →
      duration.apply v r = .error (.notANumber durationId v.deref.kind)) ∧
    ((v.deref = .float (.infinite true) ∨ ∃ a, v.amount? = some a ∧ a ≤ -1) →
      ∃ shown, duration.apply v r = .error (.negativeDuration durationId shown)) ∧
    ((∃ a, v.amount? = some a ∧ 0 ≤ a) → ∃ text, duration.apply v r = .ok text) ∧
    ∀ n : Nat, v.integer? = some (n : Int) → ∃ text, duration.apply v r = .ok text ∧
      IsClock text (min (nearestDouble n) (2 ^ (64 : Nat) - 1)) ∧
      (IsDouble n → IsClock text n) := by
  refine ⟨fun other => ?_, ?_, ?_, fun n word => ?_⟩
  · rw [duration_apply, numberFor_eq_error other]
    rfl
  · rintro (infinite | ⟨a, amount, below⟩)
    · exact ⟨.infinite true, duration_of_number (by rw [Value.number?, infinite]) r⟩
    · obtain ⟨negative, code, number, tells⟩ := Value.number?_of_amount? amount
      rw [duration_of_number number, durationText_finite, if_pos (tells.1 below)]
      exact ⟨_, rfl⟩
  · rintro ⟨a, amount, above⟩
    obtain ⟨negative, code, number, tells⟩ := Value.number?_of_amount? amount
    rw [duration_of_number number, durationText_finite, tells.2 above]
    exact ⟨_, rfl⟩
  -- A word becomes a double first, which is whole, so only its bound by 64 bits is left to say.
  · obtain ⟨x, number, whole, bound⟩ := Value.number?_of_natural word
    have shown := durationText_whole whole (isDouble_nearestDouble n)
      (Binary64.nearestDouble_le_word (Nat.le_of_lt bound))
    refine ⟨_, (duration_of_number number r).trans shown, isClock_clock _, fun isDouble => ?_⟩
    have same : min (nearestDouble n) (2 ^ (64 : Nat) - 1) = n := by
      rw [nearestDouble_of_isDouble isDouble]
      omega
    rw [same]
    exact isClock_clock n

/-- Text is refused, a minute before zero is refused, and a word with 54 significant bits loses the
    last of them. -/
theorem duration_of_amount_beyond :
    duration.apply (.ref (.str "soon")) default = .error (.notANumber "duration" .string) ∧
    (∃ shown, duration.apply (.int (-60)) default = .error (.negativeDuration "duration" shown)) ∧
    (∃ text, duration.apply (.float .zero) default = .ok text) ∧
    ∃ text, duration.apply (.ref (.uint 9007199254740993)) default = .ok text ∧
      IsClock text 9007199254740992 := by
  refine ⟨(duration_of_amount (.ref (.str "soon")) default).1 (by decide),
    (duration_of_amount (.int (-60)) default).2.1 (.inr ⟨-60, ?_, by norm_num⟩),
    (duration_of_amount (.float .zero) default).2.2.1 ⟨0, ?_, le_refl 0⟩, ?_⟩
  · decide
  · have whole : Binary64.zero.IsWhole false 0 := ⟨_, rfl, BinaryFormat.double.represents_zero⟩
    exact whole.amount?
  · obtain ⟨text, shown, clock, -⟩ :=
      (duration_of_amount (.ref (.uint 9007199254740993)) default).2.2.2 9007199254740993 rfl
    have rounded : min (nearestDouble 9007199254740993) (2 ^ (64 : Nat) - 1) =
        9007199254740992 := by decide
    exact ⟨text, shown, rounded ▸ clock⟩

/-- A word with 54 significant bits loses the last of them. -/
theorem duration_rounds :
    duration.apply (.uint 9007199254740993) default = .ok "2501999792983:36:32" ∧
      ¬ IsClock "2501999792983:36:32" 9007199254740993 := by
  have exact : clock 9007199254740992 = "2501999792983:36:32" := by decide
  refine ⟨by decide, fun clock => ?_⟩
  have total := clock.unique (exact ▸ isClock_clock 9007199254740992)
  omega

end StatusReport.Formatter
