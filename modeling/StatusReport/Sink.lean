/-! # Sinks

A sink takes text. It may refuse, and what it took before stays taken, so a write gives the sink
after it and how it went.

* `Sink`: what can be written to.
* `Transcript`: keeps what it takes. It may have room for a number of lines only.
* `SwitchedSink`: keeps what it takes, and refuses while it is broken.
-/

namespace StatusReport

inductive SinkError where
  | full
deriving DecidableEq, Repr

def SinkError.message : SinkError → String
  | .full => "sink full"

abbrev Written := Except SinkError Unit

/-- What text can be written to. -/
class Sink (σ : Type u) where
  write : σ → String → σ × Written
  /-- Passes on what may be held back. -/
  flush : σ → σ × Written

namespace Sink

def writeLine [Sink σ] (s : σ) (line : String) : σ × Written := write s (line ++ "\n")

/-- Writes lines up to the first one that is refused. -/
def writeLines [Sink σ] (s : σ) : List String → σ × Written
  | [] => (s, .ok ())
  | line :: rest =>
    match writeLine s line with
    | (s, .error e) => (s, .error e)
    | (s, .ok ()) => writeLines s rest

end Sink

/-! ## Transcripts -/

/-- Keeps what it takes. With room for `n` lines it takes text through the `n`-th line feed, and no
    character after it. -/
structure Transcript where
  received : String := ""
  room : Option Nat := none
deriving DecidableEq, Repr

namespace Transcript

/-- What fits of a text: the part taken, the room left, and whether that was all. -/
def fit : Nat → List Char → List Char × Nat × Bool
  | 0, cs => ([], 0, cs.isEmpty)
  | room + 1, [] => ([], room + 1, true)
  | room + 1, c :: cs =>
    let (taken, left, complete) := fit (if c = '\n' then room else room + 1) cs
    (c :: taken, left, complete)

def write (t : Transcript) (text : String) : Transcript × Written :=
  match t.room with
  | none => ({ t with received := t.received ++ text }, .ok ())
  | some room =>
    let (taken, left, complete) := fit room text.toList
    (⟨t.received ++ .ofList taken, some left⟩, if complete then .ok () else .error .full)

instance : Sink Transcript := ⟨write, fun t => (t, .ok ())⟩

@[simp] theorem write_unbounded (received text : String) :
    Sink.write (⟨received, none⟩ : Transcript) text = (⟨received ++ text, none⟩, .ok ()) := rfl

end Transcript

/-! ## Sinks that break -/

/-- Keeps what it takes. While it is broken it takes nothing and refuses to flush; only the empty
    text is not refused. -/
structure SwitchedSink where
  received : String := ""
  broken : Bool := false
deriving DecidableEq, Repr

namespace SwitchedSink

def write (s : SwitchedSink) (text : String) : SwitchedSink × Written :=
  if s.broken && text ≠ "" then (s, .error .full)
  else ({ s with received := s.received ++ text }, .ok ())

def flush (s : SwitchedSink) : SwitchedSink × Written :=
  (s, if s.broken then .error .full else .ok ())

instance : Sink SwitchedSink := ⟨write, flush⟩

end SwitchedSink

end StatusReport
