import StatusReport.Json.Token

/-! # Reading JSON

Tokens are read as the lexer completes them, over a stack of the lists and tables that are still
open. Of two entries with one key the later one counts. A document nests at most `maxDepth` lists
and tables.

* `read? s`: the data that a text spells, `none` where the text is no document.
-/

namespace StatusReport.Json

def maxDepth : Nat := 127

/-- A list or table that is still open: what it holds so far, for a list in reverse, and for a
    table inside an entry also the key. -/
inductive Frame where
  | list (items : List Data)
  | table (entries : Entries Data)
  | entry (entries : Entries Data) (key : String)

inductive Expecting where
  | value
  | valueOrEnd
  | key
  | keyOrEnd
  | colon
  | commaOrEnd
deriving DecidableEq

def Expecting.takesValue : Expecting → Bool
  | .value | .valueOrEnd => true
  | _ => false

/-- The reader between tokens: the open frames, innermost first, or the finished document. -/
inductive ReaderState where
  | reading (frames : List Frame) (expecting : Expecting)
  | done (d : Data)

namespace ReaderState

def initial : ReaderState := .reading [] .value

def complete (d : Data) : List Frame → Option ReaderState
  | [] => some (.done d)
  | .list items :: rest => some (.reading (.list (d :: items) :: rest) .commaOrEnd)
  | .entry entries key :: rest =>
    some (.reading (.table (Entries.insert key d entries) :: rest) .commaOrEnd)
  | .table _ :: _ => none

def openFrame (frame : Frame) (next : Expecting) (frames : List Frame) : Option ReaderState :=
  if frames.length < maxDepth then some (.reading (frame :: frames) next) else none

def step : ReaderState → Token → Option ReaderState
  | .done _, _ => none
  | .reading frames expecting, token =>
    match token with
    | .scalar d => if expecting.takesValue then complete d frames else none
    | .openList => if expecting.takesValue then openFrame (.list []) .valueOrEnd frames else none
    | .openTable => if expecting.takesValue then openFrame (.table []) .keyOrEnd frames else none
    | .text s =>
      if expecting.takesValue then complete (.text s) frames
      else if expecting = .key ∨ expecting = .keyOrEnd then
        match frames with
        | .table entries :: rest => some (.reading (.entry entries s :: rest) .colon)
        | _ => none
      else none
    | .colon => if expecting = .colon then some (.reading frames .value) else none
    | .comma =>
      if expecting = .commaOrEnd then
        match frames with
        | .list _ :: _ => some (.reading frames .value)
        | .table _ :: _ => some (.reading frames .key)
        | _ => none
      else none
    | .closeList =>
      if expecting = .commaOrEnd ∨ expecting = .valueOrEnd then
        match frames with
        | .list items :: rest => complete (.list items.reverse) rest
        | _ => none
      else none
    | .closeTable =>
      if expecting = .commaOrEnd ∨ expecting = .keyOrEnd then
        match frames with
        | .table entries :: rest => complete (.table entries) rest
        | _ => none
      else none

def run : ReaderState → List Token → Option ReaderState
  | s, [] => some s
  | s, token :: tokens => (step s token).bind (run · tokens)

end ReaderState

/-- The rest of a text, from the states of the lexer and the reader on. -/
def readFrom : Token.State → ReaderState → List Char → Option ReaderState
  | lexer, reader, [] =>
    match Token.finish lexer with
    | none => none
    | some tokens => reader.run tokens
  | lexer, reader, c :: cs =>
    match Token.step lexer c with
    | none => none
    | some (tokens, lexer) =>
      match reader.run tokens with
      | none => none
      | some reader => readFrom lexer reader cs

def readChars? (cs : List Char) : Option Data :=
  match readFrom .between .initial cs with
  | some (.done d) => some d
  | _ => none

def read? (s : String) : Option Data := readChars? s.toList

end StatusReport.Json
