import StatusReport.Text.Range

/-! # Positions in a YAML document

A document is read as characters with their place in it. Carriage returns, alone or before a line
feed, and next-line characters all end a line as a line feed does, and are replaced by one
beforehand. The separators of lines and of paragraphs also end a line, and stay what they are.

* `document? cs`: the characters of a document, none of which it may not hold.
* `Cursor`: what is left to read, and where it is.
-/

namespace StatusReport.Yaml

open Text (Range)

/-! ## Characters -/

def allowed : List Range :=
  [⟨0x9, 0xA⟩, ⟨0xD, 0xD⟩, ⟨0x20, 0x7E⟩, ⟨0x85, 0x85⟩, ⟨0xA0, 0xD7FF⟩, ⟨0xE000, 0xFEFE⟩,
   ⟨0xFF00, 0xFFFD⟩, ⟨0x10000, 0x10FFFF⟩]

/-- Replaces what ends a line by a line feed. -/
def unifyLineEnds : List Char → List Char
  | '\r' :: '\n' :: cs => '\n' :: unifyLineEnds cs
  | '\r' :: cs => '\n' :: unifyLineEnds cs
  | c :: cs => (if c = '\u0085' then '\n' else c) :: unifyLineEnds cs
  | [] => []

def dropMark : List Char → List Char
  | '\uFEFF' :: cs => cs
  | cs => cs

def document? (cs : List Char) : Option (List Char) :=
  let cs := dropMark cs
  if cs.all (Text.inRanges allowed) then some (unifyLineEnds cs) else none

def isBreak (c : Char) : Bool := c = '\n' || c = '\u2028' || c = '\u2029'

def isBlank (c : Char) : Bool := c = ' ' || c = '\t'

def endsWord : List Char → Bool
  | [] => true
  | c :: _ => isBlank c || isBreak c

def isNameChar (c : Char) : Bool := c.isAlphanum || c = '_' || c = '-'

/-- Whether characters begin with three of one kind and a word ends there. -/
def isMarker (mark : Char) : List Char → Bool
  | a :: b :: c :: cs => a = mark && b = mark && c = mark && endsWord cs
  | _ => false

/-- What separates documents, at the start of a line. -/
def isDocumentMarker (cs : List Char) : Bool := isMarker '-' cs || isMarker '.' cs

/-! ## Places -/

/-- A place in a document. `index` counts the characters before it. -/
structure Place where
  line : Nat := 0
  column : Nat := 0
  index : Nat := 0
deriving DecidableEq, Repr

def Place.after (p : Place) (c : Char) : Place :=
  if isBreak c then ⟨p.line + 1, 0, p.index + 1⟩ else ⟨p.line, p.column + 1, p.index + 1⟩

structure Cursor where
  rest : List Char
  place : Place := {}
deriving DecidableEq, Repr

namespace Cursor

def column (c : Cursor) : Nat := c.place.column

def skip (cursor : Cursor) : Cursor :=
  match cursor.rest with
  | [] => cursor
  | c :: rest => ⟨rest, cursor.place.after c⟩

def drop : Nat → Cursor → Cursor
  | 0, cursor => cursor
  | n + 1, cursor => drop n cursor.skip

def spanFrom (p : Char → Bool) : List Char → Place → List Char × Cursor
  | [], place => ([], ⟨[], place⟩)
  | c :: rest, place =>
    if p c then
      let (taken, cursor) := spanFrom p rest (place.after c)
      (c :: taken, cursor)
    else ([], ⟨c :: rest, place⟩)

def span (p : Char → Bool) (cursor : Cursor) : List Char × Cursor :=
  spanFrom p cursor.rest cursor.place

def skipWhile (p : Char → Bool) (cursor : Cursor) : Cursor := (cursor.span p).2

/-- Past blanks and a comment to the end of a line, and past that. Nothing else may be there. -/
def finishLine? (cursor : Cursor) : Option Cursor :=
  let cursor := cursor.skipWhile isBlank
  let cursor := match cursor.rest with
    | '#' :: _ => cursor.skipWhile fun c => !isBreak c
    | _ => cursor
  match cursor.rest with
  | [] => some cursor
  | c :: _ => if isBreak c then some cursor.skip else none

end Cursor

end StatusReport.Yaml
