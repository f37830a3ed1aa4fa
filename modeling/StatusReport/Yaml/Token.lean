import StatusReport.Yaml.BlockText
import StatusReport.Yaml.FlowText
import StatusReport.Yaml.Tag

/-! # Tokens of a YAML document

Indentation opens and closes the lists and tables outside brackets, so tokens for that come up where
the document holds no character for them.

A key need not be announced: what a colon follows was one. Wherever a key may start the lexer
remembers a candidate, one for every bracket that is open, and puts the tokens of a key in front of
it when the colon comes. A key lies on one line and has at most `maxKeyLength` characters. Where a
line starts at the indentation of a table it has to be a key.

* `Token.read? cs`: all tokens of a document.
-/

namespace StatusReport.Yaml

inductive Token where
  | version (major minor : Nat)
  | tagHandle (handle : TagHandle)
  | documentStart
  | documentEnd
  /-- The lists and tables that indentation opens and closes. -/
  | listStart
  | tableStart
  | blockEnd
  /-- Those in brackets. -/
  | openList
  | closeList
  | openTable
  | closeTable
  | item
  | comma
  | key
  | value
  | reference (name : List Char)
  | anchor (name : List Char)
  | tag (t : Tag)
  | scalar (text : List Char) (plain : Bool)
deriving DecidableEq, Repr

/-- What may turn out to be a key: how many tokens came before it, where it is, and whether it has
    to be one. -/
structure Candidate where
  position : Nat
  place : Place
  required : Bool
deriving DecidableEq, Repr

/-- The longest key that is not announced. -/
def maxKeyLength : Nat := 1024

/-- The lexer between tokens. Tokens are in reverse, and what is open comes innermost first. -/
structure Lexer where
  cursor : Cursor
  tokens : List Token := []
  indents : List Nat := []
  outer : Option Candidate := none
  inner : List (Option Candidate) := []
  keyAllowed : Bool := true

namespace Lexer

def inFlow (l : Lexer) : Bool := !l.inner.isEmpty

def push (l : Lexer) (t : Token) : Lexer := { l with tokens := t :: l.tokens }

def insertAt (l : Lexer) (position : Nat) (ts : List Token) : Lexer :=
  let after := l.tokens.length - position
  { l with tokens := l.tokens.take after ++ ts.reverse ++ l.tokens.drop after }

/-! ## Candidates -/

def candidate (l : Lexer) : Option Candidate :=
  match l.inner with
  | c :: _ => c
  | [] => l.outer

def setCandidate (l : Lexer) (c : Option Candidate) : Lexer :=
  match l.inner with
  | _ :: rest => { l with inner := c :: rest }
  | [] => { l with outer := c }

/-- Gives up the candidate, unless it has to be a key. -/
def dropCandidate (l : Lexer) : Option Lexer :=
  match l.candidate with
  | some ⟨_, _, true⟩ => none
  | _ => some (l.setCandidate none)

def saveCandidate (l : Lexer) : Option Lexer :=
  if l.keyAllowed then
    (l.dropCandidate).map fun l =>
      -- At the indentation of an open table there is nothing but keys.
      let required := !l.inFlow && l.indents.head? = some l.cursor.column
      l.setCandidate (some ⟨l.tokens.length, l.cursor.place, required⟩)
  else some l

def isStale (place : Place) (c : Candidate) : Bool :=
  c.place.line < place.line || c.place.index + maxKeyLength < place.index

def refreshed (place : Place) : Option Candidate → Option (Option Candidate)
  | none => some none
  | some c => if isStale place c then (if c.required then none else some none) else some (some c)

def refresh (l : Lexer) : Option Lexer := do
  let place := l.cursor.place
  return { l with
    outer := ← refreshed place l.outer
    inner := ← l.inner.mapM (refreshed place) }

/-! ## Indentation -/

/-- The ends of the lists and tables that a column closes, and the columns that stay open. -/
def closedBy (column : Option Nat) : List Nat → List Token → List Token × List Nat
  | [], tokens => (tokens, [])
  | n :: rest, tokens =>
    if column.all (· < n) then closedBy column rest (.blockEnd :: tokens) else (tokens, n :: rest)

/-- Closes what a column closes, or all without a column. Inside brackets indentation counts for
    nothing. -/
def unindent (l : Lexer) (column : Option Nat) : Lexer :=
  if l.inFlow then l
  else
    let (tokens, indents) := closedBy column l.indents l.tokens
    { l with tokens, indents }

def opensAt (l : Lexer) (column : Nat) : Bool :=
  !l.inFlow && l.indents.head?.all (· < column)

/-- Opens a list or table here unless it is open already. Outside brackets that needs a place where
    a key may start. -/
def openBlock (l : Lexer) (t : Token) : Option Lexer :=
  if l.inFlow then some l
  else if !l.keyAllowed then none
  else if l.opensAt l.cursor.column then
    some { l.push t with indents := l.cursor.column :: l.indents }
  else some l

/-! ## Between tokens -/

/-- Past blanks, comments and line ends. A tab is passed only where no key may start, and outside
    brackets a line end is where one may. -/
def skipFrom (inFlow : Bool) : List Char → Place → Bool → Bool → Cursor × Bool
  | [], place, keyAllowed, _ => (⟨[], place⟩, keyAllowed)
  | c :: rest, place, keyAllowed, inComment =>
    if isBreak c then skipFrom inFlow rest (place.after c) (keyAllowed || !inFlow) false
    else if inComment || c = ' ' || (c = '\t' && (inFlow || !keyAllowed)) then
      skipFrom inFlow rest (place.after c) keyAllowed inComment
    else if c = '#' then skipFrom inFlow rest (place.after c) keyAllowed true
    else (⟨c :: rest, place⟩, keyAllowed)

def advance (l : Lexer) : Option Lexer := do
  let (cursor, keyAllowed) := skipFrom l.inFlow l.cursor.rest l.cursor.place l.keyAllowed false
  let l ← refresh { l with cursor, keyAllowed }
  return l.unindent (some cursor.column)

/-! ## Tokens -/

def take (l : Lexer) (t : Token) (length : Nat) (keyAllowed : Bool) : Lexer :=
  { l.push t with cursor := l.cursor.drop length, keyAllowed }

def takeTo (l : Lexer) (t : Token) (cursor : Cursor) : Lexer :=
  { l.push t with cursor, keyAllowed := false }

def versionNumber? (cursor : Cursor) : Option (Nat × Cursor) :=
  let (ds, cursor) := cursor.span Char.isDigit
  if ds.isEmpty || 9 < ds.length then none
  else some (ds.foldl (fun n c => 10 * n + (c.toNat - '0'.toNat)) 0, cursor)

def version? (cursor : Cursor) : Option (Token × Cursor) := do
  let (major, cursor) ← versionNumber? (cursor.skipWhile isBlank)
  match cursor.rest with
  | '.' :: _ =>
    let (minor, cursor) ← versionNumber? cursor.skip
    return (.version major minor, cursor)
  | _ => none

def directive? (cursor : Cursor) : Option (Token × Cursor) := do
  let (name, cursor) := cursor.skip.span isNameChar
  if !endsWord cursor.rest then none
  else
    let (t, cursor) ←
      if name = "YAML".toList then version? cursor
      else if name = "TAG".toList then
        (Tag.readDirective? cursor).map fun (handle, cursor) => (.tagHandle handle, cursor)
      else none
    return (t, ← cursor.finishLine?)

/-- What ends everything that is open: a directive or a marker between documents. -/
def atTopLevel (l : Lexer) : Option Lexer := (l.unindent none).dropCandidate

def openFlow (l : Lexer) (t : Token) : Option Lexer :=
  (l.saveCandidate).map fun l => { l.take t 1 true with inner := none :: l.inner }

def closeFlow (l : Lexer) (t : Token) : Option Lexer :=
  (l.dropCandidate).map fun l => { l.take t 1 false with inner := l.inner.tail }

def takeComma (l : Lexer) : Option Lexer := (l.dropCandidate).map (·.take .comma 1 true)

def takeItem (l : Lexer) : Option Lexer := do
  let l ← l.openBlock .listStart
  let l ← l.dropCandidate
  return l.take .item 1 true

def takeKey (l : Lexer) : Option Lexer := do
  let l ← l.openBlock .tableStart
  let l ← l.dropCandidate
  return l.take .key 1 (!l.inFlow)

/-- The colon before a value. The candidate before it becomes a key, and the first key of a table
    opens the table. -/
def takeValue (l : Lexer) : Option Lexer :=
  match l.candidate with
  | some c =>
    let column := c.place.column
    let l := l.setCandidate none
    -- The tokens go in front of all that the key was made of.
    let l :=
      if l.opensAt column then
        { l.insertAt c.position [.tableStart, .key] with indents := column :: l.indents }
      else l.insertAt c.position [.key]
    some (l.take .value 1 false)
  | none => (l.openBlock .tableStart).map fun l => l.take .value 1 (!l.inFlow)

def anchorEnds : List Char := "?:,]\x7d%@\x60".toList

def anchorName? (cursor : Cursor) : Option (List Char × Cursor) :=
  let (name, cursor) := cursor.skip.span isNameChar
  if name.isEmpty then none
  else if endsWord cursor.rest || cursor.rest.head?.any anchorEnds.contains then
    some (name, cursor)
  else none

def takeAnchor (l : Lexer) (token : List Char → Token) : Option Lexer := do
  let l ← l.saveCandidate
  let (name, cursor) ← anchorName? l.cursor
  return l.takeTo (token name) cursor

def takeTag (l : Lexer) : Option Lexer := do
  let l ← l.saveCandidate
  let (t, cursor) ← Tag.read? l.inFlow l.cursor
  return l.takeTo (.tag t) cursor

/-- A text below its indicator. It is no key, and one may start after it. -/
def takeBlockText (l : Lexer) (folded : Bool) : Option Lexer := do
  let l ← l.dropCandidate
  let (text, cursor) ← blockText? folded l.indents.head? l.cursor
  return { l.takeTo (.scalar text false) cursor with keyAllowed := true }

def takeQuoted (l : Lexer) (double : Bool) : Option Lexer := do
  let l ← l.saveCandidate
  let (text, cursor) ← quotedText? double l.cursor
  return l.takeTo (.scalar text false) cursor

/-- A plain text. It may be a key, and one may start after it if a line ended. -/
def takePlain (l : Lexer) : Option Lexer := do
  let l ← l.saveCandidate
  let t ← plainText? l.inFlow (l.indents.head?.elim 0 (· + 1)) l.cursor
  return { l.takeTo (.scalar t.text true) t.after with keyAllowed := t.lineEnded }

def indicators : List Char := "-?:,[]\x7b\x7d#&*!|>'\"%@\x60".toList

def startsPlain (inFlow : Bool) (c : Char) (rest : List Char) : Bool :=
  (!isBlank c && !indicators.contains c) ||
    (c = '-' && !rest.head?.any isBlank) ||
    (!inFlow && (c = '?' || c = ':') && !endsWord rest)

def fetch (l : Lexer) (c : Char) (rest : List Char) : Option Lexer :=
  let lineStart := l.cursor.column = 0
  let indicates := l.inFlow || endsWord rest
  -- What stands at the start of a line only.
  if lineStart ∧ c = '%' then do
    let l ← l.atTopLevel
    let (t, cursor) ← directive? l.cursor
    return l.takeTo t cursor
  else if lineStart ∧ isMarker '-' (c :: rest) then
    (l.atTopLevel).map (·.take .documentStart 3 false)
  else if lineStart ∧ isMarker '.' (c :: rest) then
    (l.atTopLevel).map (·.take .documentEnd 3 false)
  -- Structure.
  else if c = '[' then l.openFlow .openList
  else if c = '\x7b' then l.openFlow .openTable
  else if c = ']' then l.closeFlow .closeList
  else if c = '\x7d' then l.closeFlow .closeTable
  else if c = ',' then l.takeComma
  else if c = '-' ∧ endsWord rest then l.takeItem
  else if c = '?' ∧ indicates then l.takeKey
  else if c = ':' ∧ indicates then l.takeValue
  -- Properties of nodes.
  else if c = '*' then l.takeAnchor .reference
  else if c = '&' then l.takeAnchor .anchor
  else if c = '!' then l.takeTag
  -- Texts.
  else if c = '|' ∧ !l.inFlow then l.takeBlockText false
  else if c = '>' ∧ !l.inFlow then l.takeBlockText true
  else if c = '\'' then l.takeQuoted false
  else if c = '"' then l.takeQuoted true
  else if startsPlain l.inFlow c rest then l.takePlain
  else none

/-- All tokens from here on. Every token but those of indentation takes a character, so there are
    at most as many steps as characters. -/
def run : Nat → Lexer → Option (List Token)
  | 0, _ => none
  | steps + 1, l => do
    let l ← l.advance
    match l.cursor.rest with
    | [] => return (← l.atTopLevel).tokens.reverse
    | c :: rest => run steps (← l.fetch c rest)

end Lexer

def Token.read? (cs : List Char) : Option (List Token) :=
  Lexer.run (cs.length + 1) { cursor := ⟨cs, {}⟩ }

end StatusReport.Yaml
