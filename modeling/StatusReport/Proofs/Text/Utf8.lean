import StatusReport.Text.Utf8

/-! # Laws of reading bytes as text

A line feed is one byte, it is part of no longer character, and it ends a character that is cut
short. So bytes can be cut at line feeds and read piece by piece, whatever they are, and a text that
was written as bytes is read back.

* `Pending.Proper`: where a reader can stand.
* `decodeLossy_append`: bytes that end a line are read apart from those after them.
* `count_decodeLossy`: as many line feeds are read as there are.
* `decodeLossy_encode`: a text is read back.
-/

namespace StatusReport.Text.Utf8

def lineFeed : UInt8 := 0x0A

def Ended (bytes : Bytes) : Prop := ∀ b ∈ bytes.getLast?, b = lineFeed

instance (bytes : Bytes) : Decidable (Ended bytes) :=
  inferInstanceAs (Decidable (∀ b ∈ bytes.getLast?, b = lineFeed))

theorem Ended.eq_append {bytes : Bytes} (ended : Ended bytes) (filled : bytes ≠ []) :
    ∃ before, bytes = before ++ [lineFeed] := by
  have last : bytes.getLast filled = lineFeed := ended _ (List.getLast?_eq_some_getLast filled)
  exact ⟨bytes.dropLast, by rw [← last, List.dropLast_concat_getLast]⟩

/-! ## Where a reader stands -/

/-- Inside a character the next byte is no character by itself, and the character that is read
    there is none of a single byte. -/
def Pending.Proper : Pending → Prop
  | .start => True
  | .inside owed low _ bits => 0x80 ≤ low ∧ (0 < bits ∨ 2 ≤ owed ∧ 0x90 ≤ low)

theorem unitsFrom_cons (s : Pending) (b : UInt8) (bs : Bytes) :
    unitsFrom s (b :: bs) = (step s b).1 ++ unitsFrom (step s b).2 bs := by
  cases s <;> rfl

/-- A first byte is a character, or announces one that the reader is then inside of. -/
theorem lead?_eq_some {b : UInt8} {l : Lead} (found : lead? b = some l) :
    (b < 0x80 ∧ l.followers = 0 ∧ l.bits = b.toNat) ∨
      (0x80 ≤ b ∧ 0 < l.followers ∧ (Pending.inside l.followers l.low l.high l.bits).Proper) := by
  simp only [lead?, UInt8.lt_iff_toNat_lt, ← UInt8.toNat_inj, UInt8.reduceToNat] at found
  simp only [Pending.Proper, UInt8.lt_iff_toNat_lt, UInt8.le_iff_toNat_le, UInt8.reduceToNat]
  repeat' split at found
  all_goals cases found
  all_goals grind

/-- The effect of a byte at the start of a character: a fault, a whole character, or one that it
    opens. -/
inductive Started (b : UInt8) (out : List (Option Char)) (next : Pending) : Prop where
  | fault (high : 0x80 ≤ b) (out_eq : out = [none]) (next_eq : next = .start)
  | single (low : b < 0x80) (out_eq : out = [some (Char.ofNat b.toNat)]) (next_eq : next = .start)
  | opened (high : 0x80 ≤ b) (out_eq : out = []) (proper : next.Proper) (inside : next ≠ .start)

theorem started (b : UInt8) : Started b (stepStart b).1 (stepStart b).2 := by
  rw [stepStart]
  cases found : lead? b with
  | none =>
    refine .fault ?_ rfl rfl
    simp only [lead?] at found
    grind
  | some l =>
    obtain ⟨followers, low, high, bits⟩ := l
    obtain ⟨small, rfl, rfl⟩ | ⟨large, several, proper⟩ := lead?_eq_some found
    · exact .single small rfl rfl
    · cases followers with
      | zero => cases several
      | succ owed => exact .opened large rfl proper Pending.noConfusion

theorem Started.proper {b : UInt8} {out : List (Option Char)} {next : Pending}
    (h : Started b out next) : next.Proper := by
  cases h with
  | fault _ _ next_eq | single _ _ next_eq => rw [next_eq]; trivial
  | opened _ _ proper _ => exact proper

theorem extend_pos {low b : UInt8} {bits : Nat} (within : low ≤ b)
    (grown : 0 < bits ∨ 0x90 ≤ low) : 0 < extend bits b := by
  have start : 0 < bits ∨ 0x90 ≤ low.toNat := grown.imp_right UInt8.le_iff_toNat_le.1
  have bound : low.toNat ≤ b.toNat := UInt8.le_iff_toNat_le.1 within
  unfold extend
  omega

theorem Pending.Proper.step {s : Pending} (proper : s.Proper) (b : UInt8) :
    (Utf8.step s b).2.Proper := by
  cases s with
  | start => exact (started b).proper
  | inside owed low high bits =>
    obtain ⟨-, grown⟩ := proper
    rw [Utf8.step]
    split
    · next within =>
      split
      · trivial
      · exact ⟨by decide, .inl (extend_pos within.1 (grown.imp_right And.right))⟩
    · exact (started b).proper

/-! ## Line feeds -/

theorem ofNat_eq_feed_iff {n : Nat} : Char.ofNat n = '\n' ↔ n = 10 := by
  constructor
  · intro feed
    rw [Char.ofNat] at feed
    by_cases valid : n.isValidChar
    · rw [dif_pos valid] at feed
      exact congrArg Char.toNat feed
    · rw [dif_neg valid] at feed
      cases feed
  · rintro rfl
    rfl

theorem step_feed {s : Pending} (proper : s.Proper) :
    Utf8.step s lineFeed = (unitsFrom s [] ++ [some '\n'], .start) := by
  cases s with
  | start => rfl
  | inside owed low high bits =>
    obtain ⟨bound, -⟩ := proper
    have outside : ¬ (low ≤ lineFeed ∧ lineFeed ≤ high) := by
      intro within
      exact absurd (UInt8.le_trans bound within.1) (by decide)
    rw [Utf8.step, if_neg outside]
    rfl

/-- A line feed ends whatever comes before it, and a character starts after it. -/
theorem unitsFrom_append_feed {s : Pending} (proper : s.Proper) (a b : Bytes) :
    unitsFrom s (a ++ lineFeed :: b) = unitsFrom s a ++ some '\n' :: unitsFrom .start b := by
  induction a generalizing s with
  | nil => rw [List.nil_append, unitsFrom_cons, step_feed proper, List.append_assoc]; rfl
  | cons c cs ih =>
    rw [List.cons_append, unitsFrom_cons, unitsFrom_cons, ih (proper.step c), List.append_assoc]

theorem Started.count_feed {b : UInt8} {out : List (Option Char)} {next : Pending}
    (h : Started b out next) : out.count (some '\n') = if b = lineFeed then 1 else 0 := by
  have large : 0x80 ≤ b → b ≠ lineFeed := by
    rintro high rfl
    exact absurd high (by decide)
  cases h with
  | fault high out_eq _ => rw [out_eq, if_neg (large high)]; rfl
  | opened high out_eq _ _ => rw [out_eq, if_neg (large high)]; rfl
  | single _ out_eq _ =>
    have feed : Char.ofNat b.toNat = '\n' ↔ b = lineFeed := by
      rw [ofNat_eq_feed_iff, ← UInt8.toNat_inj]
      rfl
    rw [out_eq, List.count_singleton]
    simp only [beq_iff_eq, Option.some_inj, feed]

theorem count_step {s : Pending} (proper : s.Proper) (b : UInt8) :
    (Utf8.step s b).1.count (some '\n') = if b = lineFeed then 1 else 0 := by
  cases s with
  | start => exact (started b).count_feed
  | inside owed low high bits =>
    obtain ⟨bound, grown⟩ := proper
    rw [Utf8.step]
    split
    next within =>
      have other : b ≠ lineFeed := by
        rintro rfl
        exact absurd (UInt8.le_trans bound within.1) (by decide)
      rw [if_neg other]
      split
      next last =>
        -- The bits so far are positive, so the character is not of a single byte.
        have longer : extend bits b ≠ 10 := by
          unfold extend
          omega
        rw [List.count_singleton]
        simp [ofNat_eq_feed_iff, longer]
      next => rfl
    next => exact (List.count_cons_of_ne (by decide)).trans (started b).count_feed

theorem count_unitsFrom {s : Pending} (proper : s.Proper) (bytes : Bytes) :
    (unitsFrom s bytes).count (some '\n') = bytes.count lineFeed := by
  induction bytes generalizing s with
  | nil => cases s <;> rfl
  | cons b bs ih =>
    rw [unitsFrom_cons, List.count_append, count_step proper, ih (proper.step b), List.count_cons,
      Nat.add_comm]
    simp only [beq_iff_eq]

/-! ## Lossy reading -/

theorem decodeLossy_eq (bytes : Bytes) :
    decodeLossy bytes = (unitsFrom .start bytes).map (·.getD replacement) := by
  rw [decodeLossy, units_eq]

@[simp] theorem decodeLossy_nil : decodeLossy [] = [] := rfl

theorem decodeLossy_append_feed (a b : Bytes) :
    decodeLossy (a ++ lineFeed :: b) = decodeLossy a ++ '\n' :: decodeLossy b := by
  simp only [decodeLossy_eq, unitsFrom_append_feed (s := .start) trivial, List.map_append,
    List.map_cons, Option.getD_some]

/-- Bytes that end a line are read apart from those after them. -/
theorem decodeLossy_append {a : Bytes} (ended : Ended a) (b : Bytes) :
    decodeLossy (a ++ b) = decodeLossy a ++ decodeLossy b := by
  by_cases filled : a = []
  · rw [filled]
    rfl
  · obtain ⟨before, rfl⟩ := ended.eq_append filled
    rw [List.append_assoc, List.singleton_append, decodeLossy_append_feed, decodeLossy_append_feed,
      List.append_assoc]
    rfl

theorem count_decodeLossy (bytes : Bytes) :
    (decodeLossy bytes).count '\n' = bytes.count lineFeed := by
  rw [← count_unitsFrom (s := .start) trivial, decodeLossy_eq]
  induction unitsFrom .start bytes with
  | nil => rfl
  | cons unit rest ih =>
    rw [List.map_cons, List.count_cons, List.count_cons, ih]
    cases unit with
    | none => rfl
    | some c => simp

theorem unitsFrom_inside_ne_nil (owed : Nat) (low high : UInt8) (bits : Nat) (bytes : Bytes) :
    unitsFrom (.inside owed low high bits) bytes ≠ [] := by
  induction bytes generalizing owed low high bits with
  | nil => exact List.cons_ne_nil _ _
  | cons b bs ih =>
    rw [unitsFrom_cons, step]
    split
    · split
      · exact List.cons_ne_nil _ _
      · exact ih _ _ _ _
    · exact List.cons_ne_nil _ _

theorem decodeLossy_ne_nil {bytes : Bytes} (filled : bytes ≠ []) : decodeLossy bytes ≠ [] := by
  obtain ⟨b, bs, rfl⟩ := List.exists_cons_of_ne_nil filled
  rw [decodeLossy_eq, Ne, List.map_eq_nil_iff, unitsFrom_cons]
  change (stepStart b).1 ++ unitsFrom (stepStart b).2 bs ≠ []
  cases started b with
  | fault _ out_eq _ | single _ out_eq _ =>
    rw [out_eq]
    exact List.cons_ne_nil _ _
  | opened _ out_eq _ inside =>
    rw [out_eq]
    cases next : (stepStart b).2 with
    | start => exact absurd next inside
    | inside owed low high bits => exact unitsFrom_inside_ne_nil _ _ _ _ _

/-! ## Reading what was written -/

theorem lead?_two : ∀ x < 32, 2 ≤ x → lead? (.ofNat (x + 192)) = some ⟨1, 0x80, 0xBF, x⟩ := by
  decide

theorem lead?_three : ∀ x < 16, lead? (.ofNat (x + 224)) =
    some ⟨2, if x = 0 then 0xA0 else 0x80, if x = 13 then 0x9F else 0xBF, x⟩ := by
  decide

theorem lead?_four : ∀ x < 5, lead? (.ofNat (x + 240)) =
    some ⟨3, if x = 0 then 0x90 else 0x80, if x = 4 then 0x8F else 0xBF, x⟩ := by
  decide

section Followers

variable {b low high : UInt8} {owed bits x : Nat} {bs : Bytes}

theorem unitsFrom_lead (found : lead? b = some ⟨owed + 1, low, high, bits⟩) :
    unitsFrom .start (b :: bs) = unitsFrom (.inside (owed + 1) low high bits) bs := by
  simp only [unitsFrom, step, stepStart, found, List.nil_append]

theorem toNat_follower (small : x < 64) : (UInt8.ofNat (x + 128)).toNat = x + 128 := by
  rw [UInt8.toNat_ofNat']
  omega

theorem extend_follower (small : x < 64) : extend bits (.ofNat (x + 128)) = 64 * bits + x := by
  have code := toNat_follower small
  unfold extend
  omega

theorem within_follower (small : x < 64) (above : low.toNat ≤ x + 128)
    (below : x + 128 ≤ high.toNat) : low ≤ .ofNat (x + 128) ∧ .ofNat (x + 128) ≤ high := by
  rw [UInt8.le_iff_toNat_le, UInt8.le_iff_toNat_le, toNat_follower small]
  exact ⟨above, below⟩

theorem unitsFrom_follower (small : x < 64) (above : low.toNat ≤ x + 128)
    (below : x + 128 ≤ high.toNat) :
    unitsFrom (.inside (owed + 2) low high bits) (.ofNat (x + 128) :: bs) =
      unitsFrom (.inside (owed + 1) 0x80 0xBF (64 * bits + x)) bs := by
  rw [unitsFrom_cons, step, if_pos (within_follower small above below), if_neg (by omega),
    extend_follower small]
  rfl

theorem unitsFrom_last (small : x < 64) (above : low.toNat ≤ x + 128)
    (below : x + 128 ≤ high.toNat) :
    unitsFrom (.inside 1 low high bits) (.ofNat (x + 128) :: bs) =
      some (Char.ofNat (64 * bits + x)) :: unitsFrom .start bs := by
  rw [unitsFrom_cons, step, if_pos (within_follower small above below), if_pos (Nat.le_refl 1),
    extend_follower small]
  rfl

end Followers

section Lengths

variable {v : Nat} (bs : Bytes)

theorem unitsFrom_two (above : 0x80 ≤ v) (below : v < 0x800) :
    unitsFrom .start (.ofNat (v / 64 % 32 + 192) :: .ofNat (v % 64 + 128) :: bs) =
      some (Char.ofNat v) :: unitsFrom .start bs := by
  have code : 64 * (v / 64 % 32) + v % 64 = v := by omega
  rw [unitsFrom_lead (lead?_two (v / 64 % 32) (by omega) (by omega)),
    unitsFrom_last (Nat.mod_lt v (by decide)) (Nat.le_add_left 128 _) _, code]
  simp only [UInt8.reduceToNat]
  omega

theorem unitsFrom_three (above : 0x800 ≤ v) (below : v < 0x10000)
    (valid : v < 0xD800 ∨ 0xDFFF < v) :
    unitsFrom .start (.ofNat (v / 4096 % 16 + 224) :: .ofNat (v / 64 % 64 + 128) ::
        .ofNat (v % 64 + 128) :: bs) =
      some (Char.ofNat v) :: unitsFrom .start bs := by
  have code : 64 * (64 * (v / 4096 % 16) + v / 64 % 64) + v % 64 = v := by omega
  rw [unitsFrom_lead (lead?_three (v / 4096 % 16) (by omega)),
    unitsFrom_follower (Nat.mod_lt _ (by decide)) _ _,
    unitsFrom_last (Nat.mod_lt v (by decide)) (Nat.le_add_left 128 _) _, code]
  · simp only [UInt8.reduceToNat]
    omega
  · split <;> simp only [UInt8.reduceToNat] <;> omega
  · split <;> simp only [UInt8.reduceToNat] <;> omega

theorem unitsFrom_four (above : 0x10000 ≤ v) (below : v < 0x110000) :
    unitsFrom .start (.ofNat (v / 262144 % 8 + 240) :: .ofNat (v / 4096 % 64 + 128) ::
        .ofNat (v / 64 % 64 + 128) :: .ofNat (v % 64 + 128) :: bs) =
      some (Char.ofNat v) :: unitsFrom .start bs := by
  have code : 64 * (64 * (64 * (v / 262144 % 8) + v / 4096 % 64) + v / 64 % 64) + v % 64 = v := by
    omega
  rw [unitsFrom_lead (lead?_four (v / 262144 % 8) (by omega)),
    unitsFrom_follower (Nat.mod_lt _ (by decide)) _ _,
    unitsFrom_follower (Nat.mod_lt _ (by decide)) (Nat.le_add_left 128 _) _,
    unitsFrom_last (Nat.mod_lt v (by decide)) (Nat.le_add_left 128 _) _, code]
  · simp only [UInt8.reduceToNat]
    omega
  · simp only [UInt8.reduceToNat]
    omega
  · split <;> simp only [UInt8.reduceToNat] <;> omega
  · split <;> simp only [UInt8.reduceToNat] <;> omega

end Lengths

theorem unitsFrom_encodeChar (c : Char) (bs : Bytes) :
    unitsFrom .start (String.utf8EncodeChar c ++ bs) = some c :: unitsFrom .start bs := by
  -- The encoder and the reader split on the same four lengths.
  have valid : c.val.toNat < 0xD800 ∨ 0xDFFF < c.val.toNat ∧ c.val.toNat < 0x110000 := c.valid
  have code : Char.ofNat c.val.toNat = c := Char.ofNat_toNat c
  simp only [String.utf8EncodeChar]
  split
  · have byte : (UInt8.ofNat c.val.toNat).toNat = c.val.toNat := by
      rw [UInt8.toNat_ofNat']
      omega
    rw [List.singleton_append, unitsFrom_start_ascii, byte, code]
    rw [UInt8.lt_iff_toNat_lt, byte]
    exact Nat.lt_succ_of_le ‹_›
  · split
    · rw [List.cons_append, List.singleton_append, unitsFrom_two bs (by omega) (by omega), code]
    · split
      · rw [List.cons_append, List.cons_append, List.singleton_append,
          unitsFrom_three bs (by omega) (by omega) (by omega), code]
      · rw [List.cons_append, List.cons_append, List.cons_append, List.singleton_append,
          unitsFrom_four bs (by omega) (by omega), code]

theorem decodeLossy_encode (cs : List Char) : decodeLossy (encode cs) = cs := by
  have units : unitsFrom .start (encode cs) = cs.map some := by
    induction cs with
    | nil => rfl
    | cons c cs ih =>
      change unitsFrom .start (String.utf8EncodeChar c ++ encode cs) = _
      rw [unitsFrom_encodeChar, ih, List.map_cons]
  rw [decodeLossy_eq, units, List.map_map]
  exact List.map_id _

end StatusReport.Text.Utf8
