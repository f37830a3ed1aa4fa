import StatusReport.Data

/-! # Writing JSON

The compact text of data: no blanks, entries in the order of the table, and only those characters
escaped that a text cannot hold. A real number has its shortest digits, with a point even where
there is no fraction; from `10 ^ 16` on and below `10 ^ -5` it has an exponent. Infinities and what
is no number are `null`.

* `compact d`: the text of `d`.
-/

namespace StatusReport.Json

open Number

/-! ## Texts -/

def escapedChar (c : Char) : List Char :=
  match c with
  | '"' => ['\\', '"']
  | '\\' => ['\\', '\\']
  | '\x08' => ['\\', 'b']
  | '\x0c' => ['\\', 'f']
  | '\n' => ['\\', 'n']
  | '\r' => ['\\', 'r']
  | '\t' => ['\\', 't']
  | c =>
    if c.toNat < 0x20 then
      ['\\', 'u', '0', '0', Nat.digitChar (c.toNat / 16), Nat.digitChar (c.toNat % 16)]
    else [c]

def textLiteral (s : String) : String :=
  .ofList ('"' :: s.toList.flatMap escapedChar ++ ['"'])

/-! ## Numbers -/

/-- The power of ten of the first digit from which a real number is written with an exponent. -/
def exponentFrom : Int := 16

/-- The least power of ten of the first digit with which it is written without one. -/
def leastPlain : Int := -5

def scientific (ds : List Char) (exponent : Int) : List Char :=
  let tail := match ds.tail with
    | [] => []
    | rest => '.' :: rest
  ds.take 1 ++ tail ++ 'e' :: (if exponent < 0 then '-' else '+') :: digits exponent.natAbs

def realDigits (code : Nat) : List Char :=
  let (d, power) := shortest .even code
  let ds := digits d
  let exponent := power + ds.length - 1
  if leastPlain ≤ exponent ∧ exponent < exponentFrom then
    positional ds power ++ (if 0 ≤ power then ['.', '0'] else [])
  else scientific ds exponent

def realLiteral : Binary64 → String
  | .nan | .infinite _ => "null"
  | .finite negative code => .ofList (signed negative (realDigits code))

/-! ## Data -/

mutual

def compact : Data → String
  | .null => "null"
  | .bool b => if b then "true" else "false"
  | .integer n => .ofList (intText n)
  | .real x => realLiteral x
  | .text s => textLiteral s
  | .list items => "[" ++ ",".intercalate (compactItems items) ++ "]"
  | .table entries => "\x7b" ++ ",".intercalate (compactEntries entries) ++ "\x7d"

def compactItems : List Data → List String
  | [] => []
  | d :: rest => compact d :: compactItems rest

def compactEntries : List (String × Data) → List String
  | [] => []
  | (key, d) :: rest => (textLiteral key ++ ":" ++ compact d) :: compactEntries rest

end

end StatusReport.Json
