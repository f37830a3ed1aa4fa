import StatusReport.Text.Printable

/-! # Quoted text

A text between double quotes, on one line and with every character visible. What has a short
escape is written with it; what does not show itself is written by its code point.
-/

namespace StatusReport.Text

/-- A code point in braces, in lower case hexadecimal. -/
def codePointEscape (c : Char) : List Char :=
  ['\\', 'u', '\x7b'] ++ Nat.toDigits 16 c.toNat ++ ['\x7d']

def quotedChar (c : Char) : List Char :=
  match c with
  | '\x00' => ['\\', '0']
  | '\t' => ['\\', 't']
  | '\r' => ['\\', 'r']
  | '\n' => ['\\', 'n']
  | '\\' => ['\\', '\\']
  | '"' => ['\\', '"']
  | c => if extendsGrapheme c || !isPrintable c then codePointEscape c else [c]

def quoted (s : String) : String :=
  .ofList ('"' :: s.toList.flatMap quotedChar ++ ['"'])

end StatusReport.Text
