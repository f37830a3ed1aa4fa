import StatusReport.Text.Range

/-! # Width of text on a terminal

A column lines up when its cells are padded by what they occupy on screen. Letters of most scripts
take one cell, ideographs and pictographs two, combining marks none. A colour sequence, an escape
character with a bracket up to the next letter, takes none either.

The width is found by a scanner with three states. `scan` runs it over a text and reports the state
it ends in, so what the text that follows contributes can be told from that state alone
(`scan_append`).

* `charWidth c`: the cells of one character.
* `visualWidth s`: the cells of a text.
-/

namespace StatusReport.Text

/-! ## Characters -/

/-- Control characters and combining marks. -/
def zeroWidth : List Range :=
  [⟨0x0000, 0x001F⟩, ⟨0x007F, 0x007F⟩, ⟨0x0300, 0x036F⟩]

/-- Symbols, pictographs and the scripts whose characters fill a square. Gaps that no character is
    assigned to stay narrow. -/
def doubleWidth : List Range :=
  [⟨0x2600, 0x26FF⟩, ⟨0x2700, 0x27BF⟩, ⟨0x1F000, 0x1F02F⟩, ⟨0x1F030, 0x1F09F⟩, ⟨0x1F0A0, 0x1F0FF⟩,
   ⟨0x1F100, 0x1F1FF⟩, ⟨0x1F200, 0x1F2FF⟩, ⟨0x1F300, 0x1F5FF⟩, ⟨0x1F600, 0x1F64F⟩,
   ⟨0x1F650, 0x1F67F⟩, ⟨0x1F680, 0x1F6FF⟩, ⟨0x1F700, 0x1F77F⟩, ⟨0x1F780, 0x1F7FF⟩,
   ⟨0x1F800, 0x1F8FF⟩, ⟨0x1F900, 0x1F9FF⟩, ⟨0x1100, 0x115F⟩, ⟨0x2E80, 0x2EFF⟩, ⟨0x2F00, 0x2FDF⟩,
   ⟨0x2FF0, 0x2FFF⟩, ⟨0x3000, 0x303E⟩, ⟨0x3041, 0x3096⟩, ⟨0x30A1, 0x30FA⟩, ⟨0x3105, 0x312D⟩,
   ⟨0x3131, 0x318E⟩, ⟨0x3190, 0x31BA⟩, ⟨0x31C0, 0x31E3⟩, ⟨0x31F0, 0x31FF⟩, ⟨0x3200, 0x32FF⟩,
   ⟨0x3300, 0x33FF⟩, ⟨0x3400, 0x4DBF⟩, ⟨0x4E00, 0x9FFF⟩, ⟨0xA000, 0xA48C⟩, ⟨0xA490, 0xA4C6⟩,
   ⟨0xAC00, 0xD7AF⟩, ⟨0xF900, 0xFAFF⟩, ⟨0xFE10, 0xFE19⟩, ⟨0xFE30, 0xFE6F⟩, ⟨0xFF00, 0xFF60⟩,
   ⟨0xFFE0, 0xFFE6⟩]

def charWidth (c : Char) : Nat :=
  if inRanges zeroWidth c then 0
  else if inRanges doubleWidth c then 2
  else 1

/-! ## The scanner -/

def escape : Char := '\x1b'

/-- Where the scanner stands between characters. -/
inductive Scan where
  | plain
  | escaped
  /-- After an escape character and a bracket, before the letter that ends the sequence. -/
  | sequence
deriving DecidableEq, Repr

namespace Scan

def stepPlain (c : Char) : Scan × Nat :=
  if c = escape then (.escaped, 0) else (.plain, charWidth c)

/-- One character: the state after it and the cells it occupies. An escape character that no
    bracket follows opens nothing. -/
def step : Scan → Char → Scan × Nat
  | .plain, c => stepPlain c
  | .escaped, c => if c = '[' then (.sequence, 0) else stepPlain c
  | .sequence, c => if c.isAlpha then (.plain, 0) else (.sequence, 0)

end Scan

/-- The state after a text and the cells it occupies. -/
def scan : Scan → List Char → Scan × Nat
  | s, [] => (s, 0)
  | s, c :: cs =>
    let (s', w) := s.step c
    let (s'', v) := scan s' cs
    (s'', w + v)

@[simp] theorem scan_nil (s : Scan) : scan s [] = (s, 0) := rfl

@[simp] theorem scan_cons (s : Scan) (c : Char) (cs : List Char) :
    scan s (c :: cs) = ((scan (s.step c).1 cs).1, (s.step c).2 + (scan (s.step c).1 cs).2) := rfl

/-- A text is scanned from the state that the text before it ends in. -/
theorem scan_append (s : Scan) (a b : List Char) :
    scan s (a ++ b) = ((scan (scan s a).1 b).1, (scan s a).2 + (scan (scan s a).1 b).2) := by
  induction a generalizing s with
  | nil => simp
  | cons c cs ih => simp [ih, Nat.add_assoc]

def widthOf (cs : List Char) : Nat := (scan .plain cs).2

def visualWidth (s : String) : Nat := widthOf s.toList

@[simp] theorem widthOf_nil : widthOf [] = 0 := rfl

end StatusReport.Text
