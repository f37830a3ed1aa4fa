import StatusReport.Yaml.Cursor

/-! # Texts below a line of YAML

A text below an indicator consists of lines that are indented alike. A *literal* text keeps its
line ends. In a *folded* one a single line end between two lines that start with no blank becomes a
blank, and of more than one the first is dropped. Chomping decides what becomes of the line ends
after the last line.

* `blockText?`: the text below an indicator.
-/

namespace StatusReport.Yaml

/-- What becomes of the line ends after the last line. -/
inductive Chomping where
  | strip
  | clip
  | keep
deriving DecidableEq, Repr

/-- What stands beside the indicator. `indent` is relative to what is around the text. -/
structure BlockHeader where
  chomping : Chomping := .clip
  indent : Option Nat := none
deriving DecidableEq, Repr

def chomping? : Char → Option Chomping
  | '-' => some .strip
  | '+' => some .keep
  | _ => none

def indentDigit? (c : Char) : Option Nat := if c.isDigit then some (c.toNat - '0'.toNat) else none

/-- Reads what stands beside the indicator, in either order, up to the end of the line. -/
def blockHeader? (cursor : Cursor) : Option (BlockHeader × Cursor) := do
  let (chomping, cursor) := match cursor.rest with
    | c :: _ => match chomping? c with
      | some chomping => (some chomping, cursor.skip)
      | none => (none, cursor)
    | [] => (none, cursor)
  let (indent, cursor) := match cursor.rest with
    | c :: _ => match indentDigit? c with
      | some n => (some n, cursor.skip)
      | none => (none, cursor)
    | [] => (none, cursor)
  let (chomping, cursor) := match chomping, indent, cursor.rest with
    | none, some _, c :: _ => match chomping? c with
      | some chomping => (some chomping, cursor.skip)
      | none => (none, cursor)
    | chomping, _, _ => (chomping, cursor)
  if indent = some 0 then none
  else return (⟨chomping.getD .clip, indent⟩, ← cursor.finishLine?)

/-! ## Lines -/

/-- The text so far: its characters in reverse, the end of its last line, the line ends after that
    in reverse, and whether the last line started with a blank. -/
structure BlockLines where
  read : List Char := []
  lineEnd : Option Char := none
  more : List Char := []
  startedBlank : Bool := false

namespace BlockLines

def start (folded : Bool) (c : Char) (b : BlockLines) : BlockLines :=
  let joined :=
    if folded && b.lineEnd = some '\n' && !b.startedBlank && !isBlank c then
      if b.more.isEmpty then ' ' :: b.read else b.read
    else b.lineEnd.toList ++ b.read
  ⟨c :: (b.more ++ joined), none, [], isBlank c⟩

def finish (chomping : Chomping) (b : BlockLines) : List Char :=
  let kept := match chomping with
    | .strip => b.read
    | .clip => b.lineEnd.toList ++ b.read
    | .keep => b.more ++ b.lineEnd.toList ++ b.read
  kept.reverse

end BlockLines

/-- The lines of a text. `indent` is their indentation, unless the first line has yet to tell:
    then it is `widest`, the widest indentation of an empty line so far or of the first line, but
    at least `least`. `inLine` tells whether the reader is inside a line. -/
def blockLinesFrom (folded : Bool) (least : Nat) :
    List Char → Place → Option Nat → Nat → Bool → BlockLines → Option (BlockLines × Cursor)
  | [], place, _, _, _, b => some (b, ⟨[], place⟩)
  | c :: rest, place, indent, widest, true, b =>
    if isBreak c then
      blockLinesFrom folded least rest (place.after c) indent widest false
        { b with lineEnd := some c }
    else
      blockLinesFrom folded least rest (place.after c) indent widest true
        { b with read := c :: b.read }
  | c :: rest, place, indent, widest, false, b =>
    let before := match indent with
      | none => true
      | some n => place.column < n
    if before && c = ' ' then
      blockLinesFrom folded least rest (place.after c) indent widest false b
    else if before && c = '\t' then none
    else
      let widest := max widest place.column
      if isBreak c then
        blockLinesFrom folded least rest (place.after c) indent widest false
          { b with more := c :: b.more }
      else
        let n := indent.getD (max widest (max least 1))
        if place.column = n then
          blockLinesFrom folded least rest (place.after c) (some n) widest true (b.start folded c)
        else some (b, ⟨c :: rest, place⟩)

/-- The text below the indicator at a cursor, given the indentation around it if there is any. -/
def blockText? (folded : Bool) (around : Option Nat) (cursor : Cursor) :
    Option (List Char × Cursor) := do
  let (header, cursor) ← blockHeader? cursor.skip
  let indent := header.indent.map (around.getD 0 + ·)
  let least := around.elim 0 (· + 1)
  let (b, cursor) ← blockLinesFrom folded least cursor.rest cursor.place indent 0 false {}
  return (b.finish header.chomping, cursor)

end StatusReport.Yaml
