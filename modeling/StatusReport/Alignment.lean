import StatusReport.Sink
import StatusReport.Text.Lines
import StatusReport.Text.Utf8
import StatusReport.Text.Width

/-! # Alignment of tabbed text

Cells of a line are separated by tabs. The aligner holds back what it is given; on a flush it pads
every cell that a tab follows to the widest such cell of its column, and passes the text on. The
last cell of a line is not padded, and empty cells at the end of a line are dropped.

* `alignRows`: the lines of cells, padded.
* `alignedText`: the text that bytes become.
* `TabAligner`: a sink that aligns what it is given for another one.
-/

namespace StatusReport

open Text (Bytes)

/-! ## Rows of cells -/

abbrev Cell := List Char

def cellRows (text : List Char) : List (List Cell) :=
  (Text.lines text).map (Text.splitOn '\t')

/-- The larger width in each place of two lists of widths; the longer list goes on alone. -/
def maxima : List Nat → List Nat → List Nat
  | [], ws => ws
  | v :: vs, [] => v :: vs
  | v :: vs, w :: ws => max v w :: maxima vs ws

def paddedWidths (row : List Cell) : List Nat := row.dropLast.map Text.widthOf

/-- The width of each column: of its widest cell that a tab follows. -/
def columnWidths (rows : List (List Cell)) : List Nat :=
  rows.foldl (fun widths row => maxima widths (paddedWidths row)) []

/-- A row up to its last cell that is not empty. -/
def trimRow (row : List Cell) : List Cell :=
  (row.reverse.dropWhile List.isEmpty).reverse

def padCell (padding width : Nat) (cell : Cell) : List Char :=
  cell ++ List.replicate (width - Text.widthOf cell + padding) ' '

def padRow (padding : Nat) : List Nat → List Cell → List Char
  | _, [] => []
  | _, [cell] => cell
  | [], cell :: rest => padCell padding 0 cell ++ padRow padding [] rest
  | width :: widths, cell :: rest => padCell padding width cell ++ padRow padding widths rest

def alignRows (padding : Nat) (rows : List (List Cell)) : List (List Char) :=
  let widths := columnWidths rows
  rows.map fun row => padRow padding widths (trimRow row)

/-- The text that bytes become. Every line of it ends in a line feed. -/
def alignedText (padding : Nat) (bytes : Bytes) : String :=
  .ofList ((alignRows padding (cellRows (Text.Utf8.decodeLossy bytes))).flatMap (· ++ ['\n']))

/-! ## The aligner -/

def defaultPadding : Nat := 2

/-- Holds text back until it can be aligned for the sink inside. -/
structure TabAligner (σ : Type u) where
  inner : σ
  padding : Nat := defaultPadding
  pending : Array UInt8 := #[]

namespace TabAligner

variable {σ : Type u}

def append (a : TabAligner σ) (bytes : Bytes) : TabAligner σ :=
  { a with pending := a.pending ++ bytes }

/-- Passes on the aligned text. A refusal leaves what is pending as it is, so that it can be tried
    again. -/
def flush [Sink σ] (a : TabAligner σ) : TabAligner σ × Written :=
  let passOn (a : TabAligner σ) : TabAligner σ × Written :=
    let (inner, written) := Sink.flush a.inner
    ({ a with inner }, written)
  if a.pending.isEmpty then passOn a
  else
    match Sink.write a.inner (alignedText a.padding a.pending.toList) with
    | (inner, .error e) => ({ a with inner }, .error e)
    | (inner, .ok ()) => passOn { a with inner, pending := #[] }

instance [Sink σ] : Sink (TabAligner σ) where
  write a text := (a.append (Text.Utf8.bytesOf text), .ok ())
  flush := flush

/-- Flushes and gives back the sink inside, and how that went. -/
def close [Sink σ] (a : TabAligner σ) : σ × Written :=
  let (a, written) := a.flush
  (a.inner, written)

end TabAligner

end StatusReport
