import Mathlib.Algebra.GroupWithZero.Nat
import Mathlib.Data.List.Induction
import StatusReport.Proofs.Text.Utf8
import StatusReport.Text.Width

/-! # Widths of texts side by side

The width of two texts side by side is the sum of their widths, unless the first one leaves a colour
sequence open, or ends in an escape character for which the second one may have the bracket. A text
that does neither is settled. Settled texts are those after which the scanner stands outside every
sequence.

* `Text.Settled`: the texts.
* `Text.scan_eq_plain_iff`: where the scanner stands after them.
* `Text.scan_append_of_settled`: their widths add up.
* `Text.Utf8.sum_charWidth_decodeLossy_le`: what bytes are read as is no wider than they are many.
-/

namespace StatusReport.Text

/-- A text that does not end in an escape character, nor inside a colour sequence, which goes from
    an escape character and a bracket to the next letter. -/
structure Settled (cs : List Char) : Prop where
  unescaped : cs.getLast? ≠ some escape
  closed : ∀ before inside, cs = before ++ escape :: '[' :: inside → ∃ c ∈ inside, c.isAlpha = true

/-! ## Where the scanner stands -/

theorem fst_scan_concat (s : Scan) (cs : List Char) (c : Char) :
    (scan s (cs ++ [c])).1 = ((scan s cs).1.step c).1 := by
  simp [scan_append]

theorem eq_escape_of_step {s : Scan} {c : Char} (h : (s.step c).1 = .escaped) : c = escape := by
  have outside : (Scan.stepPlain c).1 = .escaped → c = escape := by
    intro h
    by_cases here : c = escape
    · exact here
    · simp [Scan.stepPlain, here] at h
  cases s with
  | plain => exact outside h
  | escaped =>
    by_cases bracket : c = '['
    · simp [Scan.step, bracket] at h
    · simp only [Scan.step, bracket, if_false] at h
      exact outside h
  | sequence => by_cases letter : c.isAlpha = true <;> simp [Scan.step, letter] at h

theorem cases_of_step_eq_sequence {s : Scan} {c : Char} (h : (s.step c).1 = .sequence) :
    (s = .escaped ∧ c = '[') ∨ (s = .sequence ∧ c.isAlpha = false) := by
  have outside : (Scan.stepPlain c).1 ≠ .sequence := by
    by_cases here : c = escape <;> simp [Scan.stepPlain, here]
  cases s with
  | plain => exact absurd h outside
  | escaped =>
    by_cases bracket : c = '['
    · exact .inl ⟨rfl, bracket⟩
    · simp only [Scan.step, bracket, if_false] at h
      exact absurd h outside
  | sequence =>
    by_cases letter : c.isAlpha = true
    · simp [Scan.step, letter] at h
    · exact .inr ⟨rfl, by simpa using letter⟩

theorem getLast?_of_scan_eq_escaped {cs : List Char} (h : (scan .plain cs).1 = .escaped) :
    cs.getLast? = some escape := by
  induction cs using List.reverseRecOn with
  | nil => cases h
  | append_singleton cs c _ =>
    rw [fst_scan_concat] at h
    rw [List.getLast?_concat, eq_escape_of_step h]

theorem scan_opening (s : Scan) (inside : List Char) :
    scan s (escape :: '[' :: inside) = scan .sequence inside := by
  cases s <;> simp [Scan.step, Scan.stepPlain, show escape ≠ '[' by decide,
    show escape.isAlpha = false by decide, show '['.isAlpha = false by decide]

theorem scan_inside {inside : List Char} (unclosed : ∀ c ∈ inside, c.isAlpha = false) :
    scan .sequence inside = (.sequence, 0) := by
  induction inside with
  | nil => rfl
  | cons c cs ih =>
    obtain ⟨first, others⟩ := List.forall_mem_cons.1 unclosed
    simp [Scan.step, first, ih others]

theorem scan_eq_sequence_iff {cs : List Char} :
    (scan .plain cs).1 = .sequence ↔
      ∃ before inside, cs = before ++ escape :: '[' :: inside ∧
        ∀ c ∈ inside, c.isAlpha = false := by
  constructor
  · intro h
    induction cs using List.reverseRecOn with
    | nil => cases h
    | append_singleton cs c ih =>
      rw [fst_scan_concat] at h
      obtain ⟨escaped, rfl⟩ | ⟨sequence, other⟩ := cases_of_step_eq_sequence h
      · obtain ⟨before, rfl⟩ := List.getLast?_eq_some_iff.1 (getLast?_of_scan_eq_escaped escaped)
        exact ⟨before, [], by simp, by simp⟩
      · obtain ⟨before, inside, rfl, unclosed⟩ := ih sequence
        refine ⟨before, inside ++ [c], by simp, ?_⟩
        rw [List.forall_mem_append, List.forall_mem_singleton]
        exact ⟨unclosed, other⟩
  · -- Wherever the scanner stands in front of an opening, it is inside a sequence behind it.
    rintro ⟨before, inside, rfl, unclosed⟩
    rw [scan_append, scan_opening, scan_inside unclosed]

theorem scan_eq_plain_iff {cs : List Char} : (scan .plain cs).1 = .plain ↔ Settled cs := by
  constructor
  · intro plain
    constructor
    · intro last
      obtain ⟨before, rfl⟩ := List.getLast?_eq_some_iff.1 last
      rw [fst_scan_concat] at plain
      -- An escape character leads outside from no state.
      generalize (scan .plain before).1 = s at plain
      cases s <;> cases plain
    · intro before inside cut
      by_contra unclosed
      have sequence := scan_eq_sequence_iff.2 ⟨before, inside, cut, by simpa using unclosed⟩
      cases plain.symm.trans sequence
  · intro settled
    cases state : (scan .plain cs).1 with
    | plain => rfl
    | escaped => exact absurd (getLast?_of_scan_eq_escaped state) settled.unescaped
    | sequence =>
      obtain ⟨before, inside, cut, unclosed⟩ := scan_eq_sequence_iff.1 state
      obtain ⟨c, member, letter⟩ := settled.closed before inside cut
      rw [unclosed c member] at letter
      cases letter

/-! ## Sums of widths -/

theorem scan_append_of_settled {a : List Char} (settled : Settled a) (b : List Char) :
    scan .plain (a ++ b) = ((scan .plain b).1, widthOf a + widthOf b) := by
  rw [scan_append, scan_eq_plain_iff.2 settled]
  rfl

theorem charWidth_le (c : Char) : charWidth c ≤ 2 := by
  rw [charWidth]
  split
  · omega
  · split <;> omega

theorem charWidth_ascii {b : UInt8} (low : b < 0x80) : charWidth (.ofNat b.toNat) ≤ 1 := by
  have all : ∀ n < 128, charWidth (.ofNat n) ≤ 1 := by decide +kernel
  exact all _ (UInt8.lt_iff_toNat_lt.1 low)

theorem snd_step_le (s : Scan) (c : Char) : (s.step c).2 ≤ charWidth c := by
  have outside : (Scan.stepPlain c).2 ≤ charWidth c := by
    by_cases here : c = escape <;> simp [Scan.stepPlain, here]
  cases s with
  | plain => exact outside
  | escaped =>
    by_cases bracket : c = '['
    · simp [Scan.step, bracket]
    · simpa [Scan.step, bracket] using outside
  | sequence => by_cases letter : c.isAlpha = true <;> simp [Scan.step, letter]

theorem scan_le_sum (s : Scan) (cs : List Char) : (scan s cs).2 ≤ (cs.map charWidth).sum := by
  induction cs generalizing s with
  | nil => exact Nat.le_refl 0
  | cons c cs ih =>
    have first := snd_step_le s c
    have rest := ih (s.step c).1
    rw [scan_cons, List.map_cons, List.sum_cons]
    omega

namespace Utf8

/-- The cells of decoded characters, with no regard to colour sequences. -/
def unitsWidth (out : List (Option Char)) : Nat :=
  (out.map fun unit => charWidth (unit.getD replacement)).sum

@[simp] theorem unitsWidth_nil : unitsWidth [] = 0 := rfl

@[simp] theorem unitsWidth_none_cons (out : List (Option Char)) :
    unitsWidth (none :: out) = 1 + unitsWidth out := by
  have fault : charWidth replacement = 1 := by decide +kernel
  rw [unitsWidth, List.map_cons, List.sum_cons, Option.getD_none, fault]
  rfl

@[simp] theorem unitsWidth_some_cons (c : Char) (out : List (Option Char)) :
    unitsWidth (some c :: out) = charWidth c + unitsWidth out := rfl

@[simp] theorem unitsWidth_append (a b : List (Option Char)) :
    unitsWidth (a ++ b) = unitsWidth a + unitsWidth b := by
  simp [unitsWidth]

def Pending.taken : Pending → Nat
  | .start => 0
  | .inside .. => 1

@[simp] theorem Pending.taken_start : Pending.start.taken = 0 := rfl

@[simp] theorem Pending.taken_inside (owed : Nat) (low high : UInt8) (bits : Nat) :
    (Pending.inside owed low high bits).taken = 1 := rfl

theorem Started.unitsWidth_le {b : UInt8} {out : List (Option Char)} {next : Pending}
    (h : Started b out next) : unitsWidth out + next.taken ≤ 1 := by
  cases h with
  | fault _ out_eq next_eq => simp [out_eq, next_eq]
  | single low out_eq next_eq => simpa [out_eq, next_eq] using charWidth_ascii low
  | opened _ out_eq _ _ => cases next <;> simp [out_eq]

/-- A byte adds one cell at most, for a character of two cells has two bytes or more. -/
theorem unitsWidth_step_le (s : Pending) (b : UInt8) :
    unitsWidth (step s b).1 + (step s b).2.taken ≤ s.taken + 1 := by
  have fresh := (started b).unitsWidth_le
  cases s with
  | start => rwa [Pending.taken_start, Nat.zero_add]
  | inside owed low high bits =>
    rw [step]
    split
    · split
      · simpa using charWidth_le _
      · simp
    · simp only [unitsWidth_none_cons, Pending.taken_inside]
      omega

theorem unitsWidth_unitsFrom_le (s : Pending) (bytes : Bytes) :
    unitsWidth (unitsFrom s bytes) ≤ s.taken + bytes.length := by
  induction bytes generalizing s with
  | nil => cases s <;> simp [unitsFrom]
  | cons b bs ih =>
    have first := unitsWidth_step_le s b
    have rest := ih (step s b).2
    rw [unitsFrom_cons, unitsWidth_append, List.length_cons]
    omega

/-- The characters that bytes are read as take up no more cells than there are bytes. -/
theorem sum_charWidth_decodeLossy_le (bytes : Bytes) :
    ((decodeLossy bytes).map charWidth).sum ≤ bytes.length := by
  have bound := unitsWidth_unitsFrom_le .start bytes
  rw [Pending.taken_start, Nat.zero_add] at bound
  rw [decodeLossy_eq, List.map_map]
  exact bound

end Utf8

end StatusReport.Text
