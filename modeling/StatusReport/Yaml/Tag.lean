import StatusReport.Text.CharCode
import StatusReport.Text.Utf8
import StatusReport.Yaml.Cursor

/-! # Tags of a YAML document

A tag names what a node is. It is written in full between angle brackets, or as a handle and what
follows it; directives at the start of a document say what a handle stands for. A percent sign and
two digits spell a byte.

* `Tag.read?`: a tag as it is written.
* `Tag.text?`: the whole tag, under what handles stand for.
-/

namespace StatusReport.Yaml

/-- A tag as it is written. One in full has no handle. -/
structure Tag where
  handle : List Char
  suffix : List Char
deriving DecidableEq, Repr

structure TagHandle where
  handle : List Char
  expansion : List Char
deriving DecidableEq, Repr

namespace Tag

/-! ## Reading -/

def marks : List Char := ";/?:@&=+$.%!~*'()".toList

/-- A character of a tag; between angle brackets three more are. -/
def isTagChar (inFull : Bool) (c : Char) : Bool :=
  isNameChar c || marks.contains c || (inFull && (c = ',' || c = '[' || c = ']'))

def bytes? : List Char → Option Text.Bytes
  | [] => some []
  | '%' :: a :: b :: rest => do
    let byte := 16 * (← Text.hexDigit? a) + (← Text.hexDigit? b)
    return UInt8.ofNat byte :: (← bytes? rest)
  | '%' :: _ => none
  | c :: rest => (bytes? rest).map (String.utf8EncodeChar c ++ ·)

/-- The characters in front that belong to a tag, with bytes spelled out. -/
def chars? (inFull : Bool) (cursor : Cursor) : Option (List Char × Cursor) := do
  let (cs, cursor) := cursor.span (isTagChar inFull)
  return (← Text.Utf8.decode? (← bytes? cs), cursor)

def someChars? (inFull : Bool) (cursor : Cursor) : Option (List Char × Cursor) :=
  match chars? inFull cursor with
  | some (c :: cs, cursor) => some (c :: cs, cursor)
  | _ => none

/-- An exclamation mark, characters of a name, and perhaps another mark. -/
def readHandle (cursor : Cursor) : List Char × Cursor :=
  let (name, cursor) := cursor.skip.span isNameChar
  match cursor.rest with
  | '!' :: _ => ('!' :: name ++ ['!'], cursor.skip)
  | _ => ('!' :: name, cursor)

def isClosed (handle : List Char) : Bool := handle.length ≥ 2 && handle.getLast? = some '!'

/-- A tag that is not written in full. A mark alone is a tag in full. -/
def readShort? (cursor : Cursor) : Option (Tag × Cursor) :=
  let (h, cursor) := readHandle cursor
  if isClosed h then (someChars? false cursor).map fun (suffix, cursor) => (⟨h, suffix⟩, cursor)
  else (chars? false cursor).map fun (cs, cursor) =>
    match h.tail ++ cs with
    | [] => (⟨[], ['!']⟩, cursor)
    | suffix => (⟨['!'], suffix⟩, cursor)

def readFull? (cursor : Cursor) : Option (Tag × Cursor) := do
  let (suffix, cursor) ← someChars? true (cursor.drop 2)
  match cursor.rest with
  | '>' :: _ => return (⟨[], suffix⟩, cursor.skip)
  | _ => none

/-- The tag at a cursor. A blank or a line end follows it, inside brackets perhaps a comma. -/
def read? (inFlow : Bool) (cursor : Cursor) : Option (Tag × Cursor) := do
  let (tag, cursor) ← match cursor.rest with
    | _ :: '<' :: _ => readFull? cursor
    | _ => readShort? cursor
  if endsWord cursor.rest || (inFlow && cursor.rest.head? = some ',') then return (tag, cursor)
  else none

def readDirective? (cursor : Cursor) : Option (TagHandle × Cursor) := do
  let cursor := cursor.skipWhile isBlank
  if cursor.rest.head? ≠ some '!' then none
  else
    let (h, cursor) := readHandle cursor
    if !isClosed h && h ≠ ['!'] then none
    else if !cursor.rest.head?.any isBlank then none
    else
      let (expansion, cursor) ← someChars? true (cursor.skipWhile isBlank)
      if endsWord cursor.rest then return (⟨h, expansion⟩, cursor) else none

/-! ## Meaning -/

def coreTypes : List Char := "tag:yaml.org,2002:".toList

def defaultHandles : List TagHandle := [⟨['!'], ['!']⟩, ⟨['!', '!'], coreTypes⟩]

def text? (handles : List TagHandle) (tag : Tag) : Option (List Char) :=
  if tag.handle.isEmpty then some tag.suffix
  else
    ((handles ++ defaultHandles).find? fun h => h.handle = tag.handle).map fun h =>
      h.expansion ++ tag.suffix

end Tag

end StatusReport.Yaml
