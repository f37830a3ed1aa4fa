import StatusReport.Json.Number
import StatusReport.Text.CharCode

/-! # Tokens of a JSON document

The lexer reads one character at a time and keeps what it is in the middle of as its state, so each
token ends where a character that cannot continue it begins.

* `Token.step`: one character, with the tokens it completes.
* `Token.finish`: the token that the end of the text completes.
-/

namespace StatusReport.Json

/-- A token. Texts are kept apart from other scalars, since only they can be keys. -/
inductive Token where
  | openList
  | closeList
  | openTable
  | closeTable
  | comma
  | colon
  | text (s : String)
  | scalar (d : Data)

namespace Token

/-! ## Characters -/

def ofPunctuation? : Char → Option Token
  | '[' => some .openList
  | ']' => some .closeList
  | '{' => some .openTable
  | '}' => some .closeTable
  | ',' => some .comma
  | ':' => some .colon
  | _ => none

/-- Space, tab and the two line ends. -/
def isBlank (c : Char) : Bool := c = ' ' || c = '\t' || c = '\n' || c = '\r'

def isNumeric (c : Char) : Bool := c.isDigit || c = '-' || c = '+' || c = '.' || c = 'e' || c = 'E'

def startsNumber (c : Char) : Bool := c.isDigit || c = '-'

def escaped? : Char → Option Char
  | '"' => some '"'
  | '\\' => some '\\'
  | '/' => some '/'
  | 'b' => some '\x08'
  | 'f' => some '\x0c'
  | 'n' => some '\n'
  | 'r' => some '\r'
  | 't' => some '\t'
  | _ => none

def ofWord? (word : String) : Option Token :=
  if word = "null" then some (.scalar .null)
  else if word = "true" then some (.scalar (.bool true))
  else if word = "false" then some (.scalar (.bool false))
  else none

def ofNumber? (cs : List Char) : Option Token :=
  (numberLiteral? cs).bind fun l => l.value?.map .scalar

/-! ## The lexer -/

/-- What the lexer is in the middle of. Characters already read are in reverse. -/
inductive State where
  | between
  | text (read : List Char)
  | escape (read : List Char)
  | unit (read : List Char) (leading : Option Nat) (count value : Nat)
  | pair (read : List Char) (leading : Nat)
  | pairEscape (read : List Char) (leading : Nat)
  | number (read : List Char)
  | word (read : List Char)

def stepBetween (c : Char) : Option (List Token × State) :=
  if isBlank c then some ([], .between)
  else if c = '"' then some ([], .text [])
  else if startsNumber c then some ([], .number [c])
  else if c.isAlpha then some ([], .word [c])
  else (ofPunctuation? c).map fun t => ([t], .between)

/-- The end of the four digits of a code unit. The two halves of a pair make one character, and
    neither half stands alone. -/
def closeUnit (read : List Char) (leading : Option Nat) (value : Nat) : Option State :=
  match leading with
  | none =>
    if 0xD800 ≤ value ∧ value ≤ 0xDBFF then some (.pair read value)
    else if 0xDC00 ≤ value ∧ value ≤ 0xDFFF then none
    else some (.text (Char.ofNat value :: read))
  | some high =>
    if 0xDC00 ≤ value ∧ value ≤ 0xDFFF then
      some (.text (Char.ofNat (0x10000 + (high - 0xD800) * 0x400 + (value - 0xDC00)) :: read))
    else none

/-- One character: the tokens it completes and the state after it. -/
def step : State → Char → Option (List Token × State)
  | .between, c => stepBetween c
  | .text read, c =>
    if c = '"' then some ([.text (.ofList read.reverse)], .between)
    else if c = '\\' then some ([], .escape read)
    else if c.toNat < 0x20 then none
    else some ([], .text (c :: read))
  | .escape read, c =>
    if c = 'u' then some ([], .unit read none 0 0)
    else (escaped? c).map fun e => ([], .text (e :: read))
  | .unit read leading count value, c =>
    match Text.hexDigit? c with
    | none => none
    | some d =>
      if count < 3 then some ([], .unit read leading (count + 1) (16 * value + d))
      else (closeUnit read leading (16 * value + d)).map ([], ·)
  | .pair read leading, c => if c = '\\' then some ([], .pairEscape read leading) else none
  | .pairEscape read leading, c => if c = 'u' then some ([], .unit read (some leading) 0 0) else none
  | .number read, c =>
    if isNumeric c then some ([], .number (c :: read))
    else do
      let token ← ofNumber? read.reverse
      let (tokens, state) ← stepBetween c
      return (token :: tokens, state)
  | .word read, c =>
    if c.isAlpha then some ([], .word (c :: read))
    else do
      let token ← ofWord? (.ofList read.reverse)
      let (tokens, state) ← stepBetween c
      return (token :: tokens, state)

def finish : State → Option (List Token)
  | .between => some []
  | .number read => (ofNumber? read.reverse).map ([·])
  | .word read => (ofWord? (.ofList read.reverse)).map ([·])
  | _ => none

end Token

end StatusReport.Json
