/-! # Text as bytes

Reading bytes as text goes character by character. Where the bytes spell no character, the longest
start of one that they hold, or else a single byte, is one fault; reading goes on after it. Strict
decoding has no fault; lossy decoding puts a replacement character for each.

* `units bytes`: characters and faults.
* `decode? bytes`: the text, if no fault is in it.
* `decodeLossy bytes`: the text with replacement characters.
* `encode cs`: the bytes of a text.
-/

namespace StatusReport.Text

abbrev Bytes := List UInt8

namespace Utf8

/-! ## The shape of a character -/

/-- What the first byte of a character announces: how many bytes follow, the range of the first of
    these, and the bits that the first byte itself contributes. Ranges are narrowed so that no
    character has two spellings, none is a surrogate and none lies beyond the last code point. -/
structure Lead where
  followers : Nat
  low : UInt8
  high : UInt8
  bits : Nat
deriving DecidableEq, Repr

def lead? (b : UInt8) : Option Lead :=
  if b < 0x80 then some ⟨0, 0x80, 0xBF, b.toNat⟩
  else if b < 0xC2 then none
  else if b < 0xE0 then some ⟨1, 0x80, 0xBF, b.toNat - 0xC0⟩
  else if b = 0xE0 then some ⟨2, 0xA0, 0xBF, 0⟩
  else if b = 0xED then some ⟨2, 0x80, 0x9F, 0xD⟩
  else if b < 0xF0 then some ⟨2, 0x80, 0xBF, b.toNat - 0xE0⟩
  else if b = 0xF0 then some ⟨3, 0x90, 0xBF, 0⟩
  else if b < 0xF4 then some ⟨3, 0x80, 0xBF, b.toNat - 0xF0⟩
  else if b = 0xF4 then some ⟨3, 0x80, 0x8F, 4⟩
  else none

/-- The code point that a following byte extends. -/
def extend (bits : Nat) (b : UInt8) : Nat := 64 * bits + (b.toNat - 0x80)

/-! ## Reading -/

/-- Where a reader stands between bytes: at the start of a character, or inside one, with the bytes
    still owed, the range of the next one and the bits read so far. -/
inductive Pending where
  | start
  | inside (owed : Nat) (low high : UInt8) (bits : Nat)
deriving DecidableEq, Repr

/-- A byte at the start of a character: what it completes, and where the reader stands then. -/
def stepStart (b : UInt8) : List (Option Char) × Pending :=
  match lead? b with
  | none => ([none], .start)
  | some ⟨0, _, _, bits⟩ => ([some (Char.ofNat bits)], .start)
  | some ⟨owed + 1, low, high, bits⟩ => ([], .inside (owed + 1) low high bits)

/-- One byte. A byte that cannot continue a character ends it as a fault and starts the next. -/
def step : Pending → UInt8 → List (Option Char) × Pending
  | .start, b => stepStart b
  | .inside owed low high bits, b =>
    if low ≤ b ∧ b ≤ high then
      if owed ≤ 1 then ([some (Char.ofNat (extend bits b))], .start)
      else ([], .inside (owed - 1) 0x80 0xBF (extend bits b))
    else
      let (out, next) := stepStart b
      (none :: out, next)

/-- Characters and faults from a state on. A character cut short by the end is a fault. -/
def unitsFrom : Pending → Bytes → List (Option Char)
  | .start, [] => []
  | .inside .., [] => [none]
  | s, b :: bs =>
    let (out, next) := step s b
    out ++ unitsFrom next bs

/-- A reader with what it has read, the latest first. -/
structure Reading where
  pending : Pending
  read : List (Option Char)

def Reading.feed (r : Reading) (b : UInt8) : Reading :=
  let (out, next) := step r.pending b
  ⟨next, out.reverse ++ r.read⟩

def Reading.finish (r : Reading) : List (Option Char) :=
  r.read.reverse ++ unitsFrom r.pending []

/-- The characters that bytes spell, with `none` for each fault. -/
def units (bytes : Bytes) : List (Option Char) :=
  (bytes.foldl Reading.feed ⟨.start, []⟩).finish

theorem finish_foldl_feed (bytes : Bytes) (r : Reading) :
    (bytes.foldl Reading.feed r).finish = r.read.reverse ++ unitsFrom r.pending bytes := by
  induction bytes generalizing r with
  | nil => rfl
  | cons b bs ih =>
    rw [List.foldl_cons, ih]
    cases h : r.pending <;> simp [Reading.feed, unitsFrom, h]

/-- Reading byte by byte gives the same as reading from the start state. -/
theorem units_eq (bytes : Bytes) : units bytes = unitsFrom .start bytes := by
  simp [units, finish_foldl_feed]

def replacement : Char := '\uFFFD'

def decodeLossy (bytes : Bytes) : List Char := (units bytes).map (·.getD replacement)

def decode? (bytes : Bytes) : Option (List Char) := (units bytes).mapM id

/-! ## Writing -/

def encode (cs : List Char) : Bytes := cs.flatMap String.utf8EncodeChar

def bytesOf (s : String) : Bytes := encode s.toList

@[simp] theorem encode_nil : encode [] = [] := rfl

@[simp] theorem encode_append (a b : List Char) : encode (a ++ b) = encode a ++ encode b := by
  simp [encode]

@[simp] theorem bytesOf_append (a b : String) : bytesOf (a ++ b) = bytesOf a ++ bytesOf b := by
  simp [bytesOf]

theorem unitsFrom_start_ascii {b : UInt8} (h : b < 0x80) (bs : Bytes) :
    unitsFrom .start (b :: bs) = some (Char.ofNat b.toNat) :: unitsFrom .start bs := by
  simp [unitsFrom, step, stepStart, lead?, h]

end Utf8

end StatusReport.Text
