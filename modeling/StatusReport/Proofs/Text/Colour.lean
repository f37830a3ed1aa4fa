import StatusReport.Proofs.Text.Width

/-! # Colours take no cells

Text behind a settled text is measured as if it stood alone, and that is so behind settled texts
only. A complete colour sequence put behind a settled text leaves the scanner where it was, outside
every sequence, and takes no cell. So sequences can be put into a text one after the other, each
behind a part that is settled then, and neither the width of the text nor what may follow it
changes.

* `ColourSequence`: a complete sequence.
* `scan_insert`: one insertion.
* `Coloured`: a text with any number of sequences put in.
* `Coloured.scan_eq`: the scanner does the same with it as with the plain one.
* `widths_add_up_outside_sequences`: the width of texts side by side, and of coloured texts.
-/

namespace StatusReport.Text

/-! ## When widths add up -/

theorem settled_of_widths_add {a : List Char}
    (add : ∀ b, widthOf (a ++ b) = widthOf a + widthOf b) : Settled a := by
  have alone : ∀ b, (scan (scan .plain a).1 b).2 = widthOf b := by
    intro b
    have sum := add b
    rw [widthOf, scan_append] at sum
    exact Nat.add_left_cancel sum
  rw [← scan_eq_plain_iff]
  -- In the two other states there is a character that takes a cell alone, but not behind the text.
  cases state : (scan .plain a).1 with
  | plain => rfl
  | escaped =>
    have bracket := alone ['[']
    rw [state] at bracket
    exact absurd bracket (by decide +kernel)
  | sequence =>
    have blank := alone [' ']
    rw [state] at blank
    exact absurd blank (by decide +kernel)

/-- A text is settled exactly if its width and that of any text behind it add up. -/
theorem settled_iff_widths_add {a : List Char} :
    Settled a ↔ ∀ b, widthOf (a ++ b) = widthOf a + widthOf b := by
  refine ⟨fun settled b => ?_, settled_of_widths_add⟩
  rw [widthOf, scan_append_of_settled settled]

/-! ## Sequences -/

/-- A complete colour sequence: what is between the bracket and the letter that ends it is no
    letter. -/
structure ColourSequence where
  inside : List Char
  letter : Char
  unclosed : ∀ c ∈ inside, c.isAlpha = false
  closes : letter.isAlpha = true

namespace ColourSequence

def chars (k : ColourSequence) : List Char := escape :: '[' :: (k.inside ++ [k.letter])

def text (k : ColourSequence) : String := .ofList k.chars

@[simp] theorem toList_text (k : ColourSequence) : k.text.toList = k.chars := String.toList_ofList

end ColourSequence

theorem ColourSequence.scan_chars (k : ColourSequence) : scan .plain k.chars = (.plain, 0) := by
  rw [chars, scan_opening, scan_append, scan_inside k.unclosed]
  simp [Scan.step, k.closes]

theorem scan_insert (k : ColourSequence) {a : List Char} (settled : Settled a) (b : List Char) :
    scan .plain (a ++ k.chars ++ b) = scan .plain (a ++ b) := by
  have outside := scan_eq_plain_iff.2 settled
  rw [scan_append, scan_append, scan_append _ a b, outside, k.scan_chars, Nat.add_zero]

/-! ## Coloured texts -/

/-- A plain text into which sequences are put, one after the other: each behind a part of the text
    made so far that is settled. -/
inductive Coloured (plain : String) : String → Prop where
  | plain : Coloured plain plain
  | insert {a b : String} (k : ColourSequence) (made : Coloured plain (a ++ b))
      (settled : Settled a.toList) : Coloured plain (a ++ k.text ++ b)

/-- The scanner ends in the same state and has counted the same cells. -/
theorem Coloured.scan_eq {plain text : String} (coloured : Coloured plain text) :
    scan .plain text.toList = scan .plain plain.toList := by
  induction coloured with
  | plain => rfl
  | insert k _ settled ih =>
    rw [← ih]
    simpa only [String.toList_append, ColourSequence.toList_text] using scan_insert k settled _

theorem Coloured.settled_iff {plain text : String} (coloured : Coloured plain text) :
    Settled text.toList ↔ Settled plain.toList := by
  rw [← scan_eq_plain_iff, ← scan_eq_plain_iff, coloured.scan_eq]

/-- The width of a text and of one behind it add up, whatever that one is, exactly if the first text
    ends neither inside a colour sequence nor in an escape character. Put behind such a text, a
    complete sequence changes the width of nothing. So a text has the width of the plain one, however
    many sequences are put into it, and it ends as the plain one does. -/
theorem widths_add_up_outside_sequences :
    (∀ a : String, Settled a.toList ↔
      ∀ b, visualWidth (a ++ b) = visualWidth a + visualWidth b) ∧
    (∀ (a b : String) (k : ColourSequence), Settled a.toList →
      visualWidth (a ++ k.text ++ b) = visualWidth (a ++ b)) ∧
    (∀ plain text : String, Coloured plain text →
      visualWidth text = visualWidth plain ∧ (Settled text.toList ↔ Settled plain.toList)) := by
  have same {plain text : String} (coloured : Coloured plain text) :
      visualWidth text = visualWidth plain := by
    rw [visualWidth, widthOf, coloured.scan_eq]
    rfl
  refine ⟨fun a => ?_, fun a b k settled => same (.insert k .plain settled),
    fun plain text coloured => ⟨same coloured, coloured.settled_iff⟩⟩
  rw [settled_iff_widths_add]
  constructor
  · intro add b
    simpa only [visualWidth, String.toList_append] using add b.toList
  · intro add b
    simpa only [visualWidth, String.toList_append, String.toList_ofList] using add (.ofList b)

namespace Sample

def sequence (digit : Char) (other : digit.isAlpha = false) : ColourSequence where
  inside := [digit]
  letter := 'm'
  unclosed := List.forall_mem_singleton.2 other
  closes := by decide

def bold : ColourSequence := sequence '1' (by decide)

def reset : ColourSequence := sequence '0' (by decide)

end Sample

/-- A title between two sequences has the width of the title, and so has what follows it. -/
theorem widths_add_up_outside_sequences_title :
    let bold := Sample.bold.text ++ "STATUS" ++ Sample.reset.text
    bold = "\x1b[1mSTATUS\x1b[0m" ∧ Settled bold.toList ∧ Coloured "STATUS" bold ∧
      visualWidth bold = 6 ∧ visualWidth (bold ++ "作业") = 10 ∧
      visualWidth ("STATUS" ++ Sample.reset.text ++ "作业") = 10 := by
  intro bold
  obtain ⟨add, insert, same⟩ := widths_add_up_outside_sequences
  have plain : Settled "STATUS".toList := scan_eq_plain_iff.1 (by decide +kernel)
  have coloured : Coloured "STATUS" bold := by
    have closed : Coloured "STATUS" ("" ++ ("STATUS" ++ Sample.reset.text)) := by
      simpa using Coloured.insert (b := "") Sample.reset (by simpa using .plain) plain
    have empty : Settled "".toList := scan_eq_plain_iff.1 (by decide +kernel)
    simpa only [bold, String.empty_append, String.append_assoc] using
      Coloured.insert Sample.bold closed empty
  obtain ⟨width, settled⟩ := same _ _ coloured
  have title : visualWidth "STATUS" = 6 := by decide +kernel
  have word : visualWidth "作业" = 4 := by decide +kernel
  refine ⟨by decide +kernel, settled.2 plain, coloured, width.trans title, ?_, ?_⟩
  · rw [(add bold).1 (settled.2 plain), width, title, word]
  · rw [insert _ _ _ plain, (add _).1 plain, title, word]

end StatusReport.Text
