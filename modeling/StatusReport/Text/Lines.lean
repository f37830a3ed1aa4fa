/-! # Lines and cells of a text

Text is cut at separators in two ways. Between separators there is always a piece, so `n`
separators make `n + 1` pieces (`splitOn`). A line feed ends a line, so what follows the last one
is a line only if it is not empty (`lines`).
-/

namespace StatusReport.Text

def consFirst (c : Char) : List (List Char) → List (List Char)
  | [] => [[c]]
  | piece :: rest => (c :: piece) :: rest

def addChar (separator c : Char) (pieces : List (List Char)) : List (List Char) :=
  if c = separator then [] :: pieces else consFirst c pieces

def splitOn (separator : Char) (cs : List Char) : List (List Char) :=
  cs.foldr (addChar separator) [[]]

/-- The lines that line feeds end, and a last one that the end of the text ends. -/
def lines (cs : List Char) : List (List Char) :=
  cs.foldr (addChar '\n') []

@[simp] theorem consFirst_ne_nil (c : Char) (pieces : List (List Char)) :
    consFirst c pieces ≠ [] := by
  cases pieces <;> simp [consFirst]

theorem length_consFirst {c : Char} {pieces : List (List Char)} (h : pieces ≠ []) :
    (consFirst c pieces).length = pieces.length := by
  cases pieces <;> simp_all [consFirst]

@[simp] theorem splitOn_nil (separator : Char) : splitOn separator [] = [[]] := rfl

theorem splitOn_cons (separator c : Char) (cs : List Char) :
    splitOn separator (c :: cs) =
      if c = separator then [] :: splitOn separator cs
      else consFirst c (splitOn separator cs) := rfl

@[simp] theorem lines_nil : lines [] = [] := rfl

theorem lines_cons (c : Char) (cs : List Char) :
    lines (c :: cs) = if c = '\n' then [] :: lines cs else consFirst c (lines cs) := rfl

@[simp] theorem splitOn_ne_nil (separator : Char) (cs : List Char) :
    splitOn separator cs ≠ [] := by
  cases cs with
  | nil => simp
  | cons c cs => by_cases h : c = separator <;> simp [splitOn_cons, h]

theorem length_splitOn (separator : Char) (cs : List Char) :
    (splitOn separator cs).length = cs.count separator + 1 := by
  induction cs with
  | nil => rfl
  | cons c cs ih =>
    by_cases h : c = separator
    · simp [splitOn_cons, h, ih]
    · simp [splitOn_cons, h, ih, length_consFirst]

/-- Text that ends in a line feed continues with fresh lines. -/
theorem lines_append_newline (a b : List Char) :
    lines (a ++ '\n' :: b) = splitOn '\n' a ++ lines b := by
  induction a with
  | nil => simp [lines_cons]
  | cons c cs ih =>
    by_cases h : c = '\n'
    · simp [lines_cons, splitOn_cons, h, ih]
    · have hne := splitOn_ne_nil '\n' cs
      match hs : splitOn '\n' cs, hne with
      | piece :: rest, _ => simp [lines_cons, splitOn_cons, h, ih, hs, consFirst]

end StatusReport.Text
