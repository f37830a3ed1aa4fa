import StatusReport.Text.CharCode
import StatusReport.Yaml.Cursor

/-! # Texts inside a line of YAML

A plain text has no marks around it; a quoted one has. Both may go on over several lines. Where a
text is broken over lines one line end becomes a blank, of more than one the first is dropped, and
the blanks around it are dropped too.

* `plainText?`: a plain text, and whether a line ended after it.
* `quotedText?`: a text between marks.
-/

namespace StatusReport.Yaml

/-! ## Gaps -/

/-- What was passed since the last character of a text that is neither blank nor a line end. Line
    ends after the first are in reverse. An escaped line end leaves no first one. -/
inductive Gap where
  | none
  | blanks (read : List Char)
  | lines (first : Option Char) (more : List Char)
deriving DecidableEq, Repr

namespace Gap

def addBlank (c : Char) : Gap → Gap
  | .none => .blanks [c]
  | .blanks read => .blanks (c :: read)
  | .lines first more => .lines first more

def addBreak (c : Char) : Gap → Gap
  | .lines first more => .lines first (c :: more)
  | _ => .lines (some c) []

def hasBreak : Gap → Bool
  | .lines .. => true
  | _ => false

def join (read : List Char) : Gap → List Char
  | .none => read
  | .blanks passed => passed ++ read
  | .lines (some '\n') [] => ' ' :: read
  | .lines (some '\n') more => more ++ read
  | .lines first more => more ++ first.toList ++ read

end Gap

/-! ## Plain texts -/

/-- The characters that a list or table in brackets consists of, and that end a plain text there. -/
def isFlowMark (c : Char) : Bool := c = ',' || c = '[' || c = ']' || c = '{' || c = '}'

/-- Whether a colon inside brackets cannot be told from one that ends a key. -/
def isUnclearColon (c : Char) (rest : List Char) : Bool :=
  c = ':' && match rest with
    | d :: _ => isFlowMark d || d = '?'
    | [] => false

def endsPlain (inFlow : Bool) (c : Char) (rest : List Char) : Bool :=
  (c = ':' && endsWord rest) || (inFlow && isFlowMark c)

/-- Whether a plain text ends after a gap: at a comment, a marker between documents, or outside
    brackets at a column before `indent`. -/
def endsAfterGap (inFlow : Bool) (indent : Nat) (c : Char) (rest : List Char) (place : Place) :
    Bool :=
  c = '#' || (place.column = 0 && isDocumentMarker (c :: rest)) ||
    (!inFlow && decide (place.column < indent))

structure PlainText where
  text : List Char
  lineEnded : Bool
  after : Cursor

/-- The rest of a plain text, after what was read in reverse. Outside brackets its lines are
    indented to `indent`, for which no tab will do. -/
def plainFrom (inFlow : Bool) (indent : Nat) :
    List Char → Place → List Char → Gap → Option PlainText
  | [], place, read, gap => some ⟨read.reverse, gap.hasBreak, ⟨[], place⟩⟩
  | c :: rest, place, read, gap =>
    let ending : PlainText := ⟨read.reverse, gap.hasBreak, ⟨c :: rest, place⟩⟩
    if isBreak c then plainFrom inFlow indent rest (place.after c) read (gap.addBreak c)
    else if isBlank c then
      if gap.hasBreak && c = '\t' && decide (place.column < indent) then none
      else plainFrom inFlow indent rest (place.after c) read (gap.addBlank c)
    else if gap ≠ .none && endsAfterGap inFlow indent c rest place then some ending
    else if inFlow && isUnclearColon c rest then none
    else if endsPlain inFlow c rest then some ending
    else plainFrom inFlow indent rest (place.after c) (c :: gap.join read) .none

def plainText? (inFlow : Bool) (indent : Nat) (cursor : Cursor) : Option PlainText :=
  plainFrom inFlow indent cursor.rest cursor.place [] .none

/-! ## Quoted texts -/

def escaped? : Char → Option Char
  | '0' => some '\x00'
  | 'a' => some '\x07'
  | 'b' => some '\x08'
  | 't' | '\t' => some '\t'
  | 'n' => some '\n'
  | 'v' => some '\x0b'
  | 'f' => some '\x0c'
  | 'r' => some '\r'
  | 'e' => some '\x1b'
  | ' ' => some ' '
  | '"' => some '"'
  | '/' => some '/'
  | '\\' => some '\\'
  | 'N' => some '\u0085'
  | '_' => some '\u00A0'
  | 'L' => some '\u2028'
  | 'P' => some '\u2029'
  | _ => none

/-- Where the reader of a quoted text is: in the text, after a backslash, or in the digits of a
    code. -/
inductive QuotedState where
  | text
  | escape
  | code (left value : Nat)
deriving DecidableEq, Repr

def doubleFrom : List Char → Place → QuotedState → List Char → Gap → Option (List Char × Cursor)
  | [], _, _, _, _ => none
  | c :: rest, place, state, read, gap =>
    match state with
    | .text =>
      if isBreak c then doubleFrom rest (place.after c) .text read (gap.addBreak c)
      else if isBlank c then doubleFrom rest (place.after c) .text read (gap.addBlank c)
      else if place.column = 0 && isDocumentMarker (c :: rest) then none
      else if c = '"' then some ((gap.join read).reverse, ⟨rest, place.after c⟩)
      else if c = '\\' then doubleFrom rest (place.after c) .escape (gap.join read) .none
      else doubleFrom rest (place.after c) .text (c :: gap.join read) .none
    | .escape =>
      if isBreak c then doubleFrom rest (place.after c) .text read (.lines none [])
      else
        match Text.codeLength? c, escaped? c with
        | some digits, _ => doubleFrom rest (place.after c) (.code digits 0) read .none
        | none, some e => doubleFrom rest (place.after c) .text (e :: read) .none
        | none, none => none
    | .code left value =>
      match Text.hexDigit? c with
      | none => none
      | some d =>
        let value := 16 * value + d
        if left ≤ 1 then
          match Text.ofCode? value with
          | none => none
          | some e => doubleFrom rest (place.after c) .text (e :: read) .none
        else doubleFrom rest (place.after c) (.code (left - 1) value) read .none

/-- The rest of a text between single marks, after what was read in reverse. A mark inside it is
    written twice. -/
def singleFrom : List Char → Place → List Char → Gap → Option (List Char × Cursor)
  | [], _, _, _ => none
  | '\'' :: '\'' :: rest, place, read, gap =>
    singleFrom rest ((place.after '\'').after '\'') ('\'' :: gap.join read) .none
  | c :: rest, place, read, gap =>
    if isBreak c then singleFrom rest (place.after c) read (gap.addBreak c)
    else if isBlank c then singleFrom rest (place.after c) read (gap.addBlank c)
    else if place.column = 0 && isDocumentMarker (c :: rest) then none
    else if c = '\'' then some ((gap.join read).reverse, ⟨rest, place.after c⟩)
    else singleFrom rest (place.after c) (c :: gap.join read) .none

def quotedText? (double : Bool) (cursor : Cursor) : Option (List Char × Cursor) :=
  let cursor := cursor.skip
  if double then doubleFrom cursor.rest cursor.place .text [] .none
  else singleFrom cursor.rest cursor.place [] .none

end StatusReport.Yaml
