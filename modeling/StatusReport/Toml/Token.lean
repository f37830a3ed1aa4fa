import StatusReport.Text.CharCode

/-! # Tokens of a TOML document

The lexer reads one character at a time and keeps what it is in the middle of as its state. Comments
leave no token. A carriage return stands only before a line feed, and control characters other than
tabs and line ends stand nowhere.

* `Token.step`: one character, with the tokens it completes.
* `Token.read?`: all tokens of a text.
-/

namespace StatusReport.Toml

/-- A token. A word is a run of characters that no other token claims; a point is always apart. -/
inductive Token where
  | lineEnd
  | blank
  | point
  | equals
  | comma
  | openBracket
  | closeBracket
  | openBrace
  | closeBrace
  | word (cs : List Char)
  | text (s : String) (multiline : Bool)
deriving DecidableEq, Repr

namespace Token

/-! ## Characters -/

def ofPunctuation? : Char → Option Token
  | '.' => some .point
  | '=' => some .equals
  | ',' => some .comma
  | '[' => some .openBracket
  | ']' => some .closeBracket
  | '{' => some .openBrace
  | '}' => some .closeBrace
  | _ => none

def isBlank (c : Char) : Bool := c = ' ' || c = '\t'

def isPrintable (c : Char) : Bool := c = '\t' || (0x20 ≤ c.toNat && c.toNat ≠ 0x7F)

def escaped? : Char → Option Char
  | '"' => some '"'
  | '\\' => some '\\'
  | 'b' => some '\x08'
  | 'e' => some '\x1b'
  | 'f' => some '\x0c'
  | 'n' => some '\n'
  | 'r' => some '\r'
  | 't' => some '\t'
  | _ => none

/-! ## The lexer -/

inductive Quote where
  | single
  | double
deriving DecidableEq, Repr

def Quote.char : Quote → Char
  | .single => '\''
  | .double => '"'

/-- What the lexer is in the middle of. Characters already read are in reverse. -/
inductive State where
  | between
  | blank
  | carriage
  | comment
  | word (read : List Char)
  | opened (q : Quote)
  | openedTwice (q : Quote)
  /-- Inside a text on one line. -/
  | text (q : Quote) (read : List Char)
  /-- At the start of a text of several lines, where a line end is dropped. -/
  | linesStart (q : Quote)
  | linesStartCarriage (q : Quote)
  | lines (q : Quote) (read : List Char) (marks : Nat)
  | linesCarriage (q : Quote) (read : List Char)
  | escape (multiline : Bool) (read : List Char)
  | code (multiline : Bool) (read : List Char) (left value : Nat)
  /-- After a backslash that only blanks follow so far. -/
  | escapedLine (read : List Char) (carriage : Bool)
  /-- In the blanks and line ends after an escaped line end. -/
  | skipping (read : List Char) (carriage : Bool)
deriving DecidableEq, Repr

def stepBetween (c : Char) : Option (List Token × State) :=
  if c = '\n' then some ([.lineEnd], .between)
  else if c = '\r' then some ([], .carriage)
  else if isBlank c then some ([], .blank)
  else if c = '#' then some ([], .comment)
  else if c = '\'' then some ([], .opened .single)
  else if c = '"' then some ([], .opened .double)
  else match ofPunctuation? c with
    | some t => some ([t], .between)
    | none => some ([], .word [c])

def stepAfter (token : Token) (c : Char) : Option (List Token × State) :=
  (stepBetween c).map fun (tokens, state) => (token :: tokens, state)

def afterCarriage (c : Char) (next : List Token × State) : Option (List Token × State) :=
  if c = '\n' then some next else none

def lineText (read : List Char) : Token := .text (.ofList read.reverse) false

def linesText (read : List Char) : Token := .text (.ofList read.reverse) true

def resume (multiline : Bool) (read : List Char) : State :=
  if multiline then .lines .double read 0 else .text .double read

def stepText (q : Quote) (read : List Char) (c : Char) : Option (List Token × State) :=
  if c = q.char then some ([lineText read], .between)
  else if c = '\\' ∧ q = .double then some ([], .escape false read)
  else if isPrintable c then some ([], .text q (c :: read))
  else none

/-- A character inside a text of several lines. The text ends at three marks, and up to two more
    marks belong to it. -/
def stepLines (q : Quote) (read : List Char) (marks : Nat) (c : Char) :
    Option (List Token × State) :=
  if c = q.char then
    if marks = 4 then some ([linesText (q.char :: q.char :: read)], .between)
    else some ([], .lines q read (marks + 1))
  else if 3 ≤ marks then
    stepAfter (linesText (List.replicate (marks - 3) q.char ++ read)) c
  else
    let read := List.replicate marks q.char ++ read
    if c = '\n' then some ([], .lines q ('\n' :: read) 0)
    else if c = '\r' then some ([], .linesCarriage q read)
    else if c = '\\' ∧ q = .double then some ([], .escape true read)
    else if isPrintable c then some ([], .lines q (c :: read) 0)
    else none

def stepEscape (multiline : Bool) (read : List Char) (c : Char) : Option (List Token × State) :=
  match Text.codeLength? c with
  | some n => some ([], .code multiline read n 0)
  | none =>
    match escaped? c with
    | some e => some ([], resume multiline (e :: read))
    | none =>
      if multiline then
        if c = '\n' then some ([], .skipping read false)
        else if c = '\r' then some ([], .escapedLine read true)
        else if isBlank c then some ([], .escapedLine read false)
        else none
      else none

/-- One character: the tokens it completes and the state after it. -/
def step : State → Char → Option (List Token × State)
  | .between, c => stepBetween c
  | .blank, c => if isBlank c then some ([], .blank) else stepAfter .blank c
  | .carriage, c => afterCarriage c ([.lineEnd], .between)
  | .comment, c =>
    if c = '\n' ∨ c = '\r' then stepBetween c
    else if isPrintable c then some ([], .comment)
    else none
  | .word read, c =>
    if c = '\n' ∨ c = '\r' ∨ c = '#' ∨ isBlank c ∨ (ofPunctuation? c).isSome then
      stepAfter (.word read.reverse) c
    else some ([], .word (c :: read))
  | .opened q, c =>
    if c = q.char then some ([], .openedTwice q) else stepText q [] c
  | .openedTwice q, c =>
    if c = q.char then some ([], .linesStart q) else stepAfter (lineText []) c
  | .text q read, c => stepText q read c
  | .linesStart q, c =>
    if c = '\n' then some ([], .lines q [] 0)
    else if c = '\r' then some ([], .linesStartCarriage q)
    else stepLines q [] 0 c
  | .linesStartCarriage q, c => afterCarriage c ([], .lines q [] 0)
  | .lines q read marks, c => stepLines q read marks c
  | .linesCarriage q read, c => afterCarriage c ([], .lines q ('\n' :: '\r' :: read) 0)
  | .escape multiline read, c => stepEscape multiline read c
  | .code multiline read left value, c => do
    let value := 16 * value + (← Text.hexDigit? c)
    if left ≤ 1 then
      let e ← Text.ofCode? value
      return ([], resume multiline (e :: read))
    else return ([], .code multiline read (left - 1) value)
  | .escapedLine read true, c => afterCarriage c ([], .skipping read false)
  | .escapedLine read false, c =>
    if c = '\n' then some ([], .skipping read false)
    else if c = '\r' then some ([], .escapedLine read true)
    else if isBlank c then some ([], .escapedLine read false)
    else none
  | .skipping read true, c => afterCarriage c ([], .skipping read false)
  | .skipping read false, c =>
    if c = '\n' ∨ isBlank c then some ([], .skipping read false)
    else if c = '\r' then some ([], .skipping read true)
    else stepLines .double read 0 c

def finish : State → Option (List Token)
  | .between | .comment => some []
  | .blank => some [.blank]
  | .word read => some [.word read.reverse]
  | .openedTwice _ => some [lineText []]
  | .lines q read marks =>
    if 3 ≤ marks then some [linesText (List.replicate (marks - 3) q.char ++ read)] else none
  | _ => none

def readFrom : State → List Token → List Char → Option (List Token)
  | state, read, [] => (finish state).map (read.reverse ++ ·)
  | state, read, c :: cs =>
    match step state c with
    | none => none
    | some (tokens, state) => readFrom state (tokens.reverse ++ read) cs

/-- All tokens of a text. A byte order mark in front is no part of it. -/
def read? : List Char → Option (List Token)
  | '\uFEFF' :: cs => readFrom .between [] cs
  | cs => readFrom .between [] cs

end Token

end StatusReport.Toml
