/-! # Characters by their codes

Notations spell characters by their code points, in hexadecimal digits of either case.
-/

namespace StatusReport.Text

def hexDigit? (c : Char) : Option Nat :=
  if '0' ≤ c ∧ c ≤ '9' then some (c.toNat - '0'.toNat)
  else if 'a' ≤ c ∧ c ≤ 'f' then some (c.toNat - 'a'.toNat + 10)
  else if 'A' ≤ c ∧ c ≤ 'F' then some (c.toNat - 'A'.toNat + 10)
  else none

/-- How many digits follow a letter that announces a code. -/
def codeLength? : Char → Option Nat
  | 'x' => some 2
  | 'u' => some 4
  | 'U' => some 8
  | _ => none

/-- The character with a code. Surrogates and what lies beyond the last code point have none. -/
def ofCode? (n : Nat) : Option Char := if h : n.isValidChar then some (.ofNatAux n h) else none

end StatusReport.Text
