import StatusReport.Toml.Scalar
import StatusReport.Toml.Token
import StatusReport.Toml.Tree

/-! # Reading TOML

A document is a sequence of lines: headers of tables and keys with their values. Tokens are read one
after the other over a stack of the lists and tables that are still open in a value. Lists and the
tables in braces nest at most `maxDepth` deep.

* `read? s`: the table that a text spells, `none` where the text is no document.
-/

namespace StatusReport.Toml

def maxDepth : Nat := 80

/-! ## Keys -/

structure KeyPath where
  path : List String
  key : String
deriving DecidableEq, Repr

/-- A key that is being read: its parts in reverse, and whether the next one is due. -/
structure KeyParts where
  parts : List String := []
  due : Bool := true

namespace KeyParts

def isBare (c : Char) : Bool :=
  ('a' ≤ c ∧ c ≤ 'z') || ('A' ≤ c ∧ c ≤ 'Z') || ('0' ≤ c ∧ c ≤ '9') || c = '_' || c = '-'

def add (k : KeyParts) (part : String) : Option KeyParts :=
  if k.due then some ⟨part :: k.parts, false⟩ else none

/-- A token that continues a key: blanks stand anywhere around the parts. -/
def step (k : KeyParts) : Token → Option KeyParts
  | .blank => some k
  | .word cs => if cs.all isBare then k.add (.ofList cs) else none
  | .text s false => k.add s
  | .point => if k.due then none else some ⟨k.parts, true⟩
  | _ => none

def complete? (k : KeyParts) : Option KeyPath :=
  match k.due, k.parts with
  | false, key :: path => some ⟨path.reverse, key⟩
  | _, _ => none

end KeyParts

/-! ## Tables of the document -/

/-- A header: of a table, or of a further table of a list. -/
structure Header where
  path : KeyPath
  element : Bool

/-- The document so far: the table that lines now go to, and all that was before it. -/
structure Document where
  root : Branch := []
  current : Branch := []
  /-- The header of the current table, `none` for the root. -/
  header : Option Header := none

namespace Document

def close (doc : Document) : Option Branch :=
  match doc.header with
  | none => some doc.current
  | some ⟨⟨path, key⟩, true⟩ => Tree.placeElement path key doc.current doc.root
  | some ⟨⟨path, key⟩, false⟩ => Tree.placeTable path key doc.current doc.root

def startTable (doc : Document) (header : Header) : Option Document := do
  let root ← doc.close
  let current ←
    if header.element then some [] else Tree.continued header.path.path header.path.key root
  return ⟨root, current, some header⟩

def define (doc : Document) (k : KeyPath) (d : Data) : Option Document :=
  (Tree.define k.path k.key d doc.current).map fun current => { doc with current }

end Document

/-! ## Values -/

/-- A list or table that is still open in a value: what it holds so far, for a list in reverse, and
    for a table inside an entry also the key. -/
inductive Frame where
  | list (items : List Data)
  | table (entries : Branch)
  | entry (entries : Branch) (key : KeyPath)

/-- What is being read, between tokens. -/
inductive State where
  | line
  /-- After all that a line may hold. -/
  | ending
  | header
  | headerKey (element : Bool) (key : KeyParts)
  | headerEnd (key : KeyPath)
  | key (key : KeyParts)
  | keyOrEnd
  | value
  /-- Inside a value of one word, in reverse. After a date, a blank may have come. -/
  | word (read : List Char)
  | wordBlank (read : List Char)
  | commaOrEnd

/-- The reader between tokens. `frames` has the open lists and tables, innermost first, and
    `target` is the key that the line gives its value to. -/
structure Reader where
  document : Document := {}
  target : KeyPath := ⟨[], ""⟩
  frames : List Frame := []
  state : State := .line

namespace Reader

/-- Hands a complete value to the innermost frame, or to the line. -/
def complete (r : Reader) (d : Data) : Option Reader :=
  match r.frames with
  | [] => (r.document.define r.target d).map fun document => { r with document, state := .ending }
  | .list items :: rest => some { r with frames := .list (d :: items) :: rest, state := .commaOrEnd }
  | .entry entries k :: rest =>
    (Tree.define k.path k.key d entries).map fun entries =>
      { r with frames := .table entries :: rest, state := .commaOrEnd }
  | .table _ :: _ => none

def openFrame (r : Reader) (frame : Frame) (state : State) : Option Reader :=
  if r.frames.length < maxDepth then some { r with frames := frame :: r.frames, state }
  else none

def closeList (r : Reader) : Option Reader :=
  match r.frames with
  | .list items :: rest => complete { r with frames := rest } (.list items.reverse)
  | _ => none

def closeTable (r : Reader) : Option Reader :=
  match r.frames with
  | .table entries :: rest => complete { r with frames := rest } entries.toData
  | _ => none

def stepLine (r : Reader) (t : Token) : Option Reader :=
  match t with
  | .blank | .lineEnd => some r
  | .openBracket => some { r with state := .header }
  | t => (KeyParts.step {} t).map fun k => { r with state := .key k }

def stepHeaderKey (r : Reader) (element : Bool) (k : KeyParts) (t : Token) : Option Reader :=
  match t with
  | .closeBracket => do
    let key ← k.complete?
    if element then return { r with state := .headerEnd key }
    else
      let document ← r.document.startTable ⟨key, false⟩
      return { r with document, state := .ending }
  | t => (k.step t).map fun k => { r with state := .headerKey element k }

def stepKey (r : Reader) (k : KeyParts) (t : Token) : Option Reader :=
  match t with
  | .equals => do
    let key ← k.complete?
    match r.frames with
    | [] => return { r with target := key, state := .value }
    | .table entries :: rest =>
      return { r with frames := .entry entries key :: rest, state := .value }
    | _ => none
  | t => (k.step t).map fun k => { r with state := .key k }

def stepKeyOrEnd (r : Reader) (t : Token) : Option Reader :=
  match t with
  | .blank | .lineEnd => some r
  | .closeBrace => r.closeTable
  | t => (KeyParts.step {} t).map fun k => { r with state := .key k }

/-- A token at a value. Line ends are passed over in a list only. -/
def stepValue (r : Reader) (t : Token) : Option Reader :=
  match t with
  | .blank => some r
  | .lineEnd =>
    match r.frames with
    | .list _ :: _ => some r
    | _ => none
  | .text s _ => r.complete (.text s)
  | .word cs => some { r with state := .word cs.reverse }
  | .point => some { r with state := .word ['.'] }
  | .openBracket => r.openFrame (.list []) .value
  | .openBrace => r.openFrame (.table []) .keyOrEnd
  | .closeBracket => r.closeList
  | _ => none

def stepCommaOrEnd (r : Reader) (t : Token) : Option Reader :=
  match t with
  | .blank | .lineEnd => some r
  | .comma =>
    match r.frames with
    | .list _ :: _ => some { r with state := .value }
    | .table _ :: _ => some { r with state := .keyOrEnd }
    | _ => none
  | .closeBracket => r.closeList
  | .closeBrace => r.closeTable
  | _ => none

def stepEnding (r : Reader) (t : Token) : Option Reader :=
  match t with
  | .blank => some r
  | .lineEnd => some { r with state := .line }
  | _ => none

/-- A token after a complete value. -/
def stepAfter (r : Reader) (t : Token) : Option Reader :=
  match r.state with
  | .ending => r.stepEnding t
  | .commaOrEnd => r.stepCommaOrEnd t
  | _ => none

def completeWord (r : Reader) (read : List Char) : Option Reader :=
  (Scalar.read? read.reverse).bind r.complete

def step (r : Reader) (t : Token) : Option Reader :=
  match r.state with
  | .line => r.stepLine t
  | .ending => r.stepEnding t
  | .header =>
    match t with
    | .openBracket => some { r with state := .headerKey true {} }
    | t => r.stepHeaderKey false {} t
  | .headerKey element k => r.stepHeaderKey element k t
  | .headerEnd key =>
    match t with
    | .closeBracket =>
      (r.document.startTable ⟨key, true⟩).map fun document => { r with document, state := .ending }
    | _ => none
  | .key k => r.stepKey k t
  | .keyOrEnd => r.stepKeyOrEnd t
  | .value => r.stepValue t
  | .word read =>
    match t with
    | .word cs => some { r with state := .word (cs.reverse ++ read) }
    | .point => some { r with state := .word ('.' :: read) }
    | .blank => some { r with state := .wordBlank read }
    | t => (r.completeWord read).bind fun r => r.stepAfter t
  | .wordBlank read =>
    match t with
    | .word cs => some { r with state := .word (cs.reverse ++ ' ' :: read) }
    | t => (r.completeWord read).bind fun r => r.stepAfter t
  | .commaOrEnd => r.stepCommaOrEnd t

def run : Reader → List Token → Option Reader
  | r, [] => some r
  | r, t :: tokens => (r.step t).bind (run · tokens)

def finish (r : Reader) : Option Data :=
  match r.state with
  | .line | .ending => r.document.close.map Branch.toData
  | _ => none

end Reader

/-- The table that characters spell. A line end is put after the last line, which may lack one. -/
def readChars? (cs : List Char) : Option Data := do
  let r ← Reader.run {} ((← Token.read? cs) ++ [.lineEnd])
  r.finish

def read? (s : String) : Option Data := readChars? s.toList

end StatusReport.Toml
