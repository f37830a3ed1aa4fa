import StatusReport.Report.Basic

/-! # Scripts

A report offers its sink one line after another until an error ends it. Which lines these are, and
which error of its own the report ends in, does not depend on the sink. So a call is a *script*:
the lines it writes if nothing refuses them, and its ending after the last of them. A sink that
refuses a line ends the script there, ahead of the ending.

* `Script.perform`: a script on a sink.
* `Script.append`, `Script.join`: scripts one after another, none after an error.
* `Script.advance`: a script after others that may have ended in an error.
* `foldl_advance`: a run of scripts is one script.
* `Sink.Keeps`, `advance_keeps`: a script on a sink that takes everything.
-/

namespace StatusReport

def unlines : List String → String
  | [] => ""
  | line :: rest => line ++ "\n" ++ unlines rest

@[simp] theorem unlines_nil : unlines [] = "" := rfl

@[simp] theorem unlines_cons (line : String) (rest : List String) :
    unlines (line :: rest) = line ++ "\n" ++ unlines rest := rfl

@[simp] theorem unlines_append (a b : List String) : unlines (a ++ b) = unlines a ++ unlines b := by
  induction a with
  | nil => simp
  | cons line rest ih => simp [ih, String.append_assoc]

theorem unlines_flatMap {α : Type _} (lines : α → List String) (l : List α) :
    unlines (l.flatMap lines) = String.join (l.map fun a => unlines (lines a)) := by
  induction l with
  | nil => simp
  | cons a rest ih => simp [ih]

theorem Sink.writeLines_append {σ : Type u} [Sink σ] (s : σ) (a b : List String) :
    Sink.writeLines s (a ++ b) =
      match Sink.writeLines s a with
      | (s, .error e) => (s, .error e)
      | (s, .ok ()) => Sink.writeLines s b := by
  induction a generalizing s with
  | nil => rfl
  | cons line rest ih =>
    rw [List.cons_append, Sink.writeLines, Sink.writeLines]
    -- A refused line ends both sides, and after any other line the rest is as before.
    obtain ⟨s, _ | _⟩ := Sink.writeLine s line
    · rfl
    · exact ih s

/-- A family of states of a sink, by the text taken so far: whatever comes next is taken too. -/
def Sink.Keeps {σ : Type u} [Sink σ] (state : String → σ) : Prop :=
  ∀ text more, Sink.write (state text) more = (state (text ++ more), .ok ())

theorem Sink.Keeps.writeLines {σ : Type u} [Sink σ] {state : String → σ}
    (keeps : Sink.Keeps state) (text : String) (lines : List String) :
    Sink.writeLines (state text) lines = (state (text ++ unlines lines), .ok ()) := by
  induction lines generalizing text with
  | nil => simp [Sink.writeLines]
  | cons line rest ih =>
    rw [Sink.writeLines, Sink.writeLine, keeps]
    simp only [ih, unlines_cons, String.append_assoc]

/-- What a call writes if nothing refuses it, and how it then ends. -/
structure Script where
  lines : List String := []
  ending : Except ViewError Unit := .ok ()

namespace Script

/-- The script of lines, nothing if one of them cannot be made. -/
def ofLines : Except ViewError (List String) → Script
  | .error e => ⟨[], .error e⟩
  | .ok lines => ⟨lines, .ok ()⟩

def error? (script : Script) : Option ViewError :=
  match script.ending with
  | .error e => some e
  | .ok () => none

def output (script : Script) : String := unlines script.lines

/-- A script after another one, unless that one ends in an error. -/
def append (a b : Script) : Script :=
  match a.ending with
  | .error _ => a
  | .ok () => ⟨a.lines ++ b.lines, b.ending⟩

instance : Append Script := ⟨append⟩

def join : List Script → Script
  | [] => {}
  | script :: rest => script ++ join rest

theorem append_of_error {a : Script} {e : ViewError} (h : a.ending = .error e) (b : Script) :
    a ++ b = a := by
  change append a b = a
  simp [append, h]

theorem append_of_ok {a : Script} (h : a.ending = .ok ()) (b : Script) :
    a ++ b = ⟨a.lines ++ b.lines, b.ending⟩ := by
  change append a b = _
  simp [append, h]

@[simp] theorem join_nil : join [] = {} := rfl

@[simp] theorem join_cons (script : Script) (rest : List Script) :
    join (script :: rest) = script ++ join rest := rfl

theorem join_of_ok {scripts : List Script} (h : ∀ script ∈ scripts, script.ending = .ok ()) :
    join scripts = ⟨scripts.flatMap lines, .ok ()⟩ := by
  induction scripts with
  | nil => rfl
  | cons script rest ih =>
    obtain ⟨head, tail⟩ := List.forall_mem_cons.1 h
    rw [join_cons, append_of_ok head, ih tail, List.flatMap_cons]

theorem join_of_error {before : List Script} {script : Script} {e : ViewError}
    (h : ∀ script ∈ before, script.ending = .ok ()) (failed : script.ending = .error e)
    (after : List Script) :
    join (before ++ script :: after) = ⟨before.flatMap lines ++ script.lines, .error e⟩ := by
  induction before with
  | nil =>
    rw [List.nil_append, join_cons, append_of_error failed, ← failed]
    rfl
  | cons first rest ih =>
    obtain ⟨head, tail⟩ := List.forall_mem_cons.1 h
    rw [List.cons_append, join_cons, append_of_ok head, ih tail, List.flatMap_cons,
      List.append_assoc]

/-! ## Performing -/

variable {σ : Type u} [Sink σ]

def perform (s : σ) (script : Script) : σ × Except ViewError Unit :=
  match Sink.writeLines s script.lines with
  | (s, .error e) => (s, .error (.sink e))
  | (s, .ok ()) => (s, script.ending)

theorem perform_append (s : σ) (a b : Script) :
    perform s (a ++ b) =
      match perform s a with
      | (s, .error e) => (s, .error e)
      | (s, .ok ()) => perform s b := by
  cases ending : a.ending with
  | error e =>
    -- The second script is never performed, whether or not the first is refused a line.
    rw [append_of_error ending]
    simp only [perform, ending]
    obtain ⟨s, _ | _⟩ := Sink.writeLines s a.lines <;> rfl
  | ok _ =>
    rw [append_of_ok ending]
    simp only [perform, Sink.writeLines_append, ending]
    obtain ⟨s, _ | _⟩ := Sink.writeLines s a.lines <;> rfl

/-- Where nothing ended in an error before, performs a script; an error is kept. -/
def advance : Option ViewError × σ → Script → Option ViewError × σ
  | (some e, s), _ => (some e, s)
  | (none, s), script =>
    match perform s script with
    | (s, .ok ()) => (none, s)
    | (s, .error e) => (some e, s)

theorem advance_none (s : σ) (script : Script) :
    advance (none, s) script =
      (match (perform s script).2 with
        | .error e => some e
        | .ok () => none,
        (perform s script).1) := by
  rw [advance]
  obtain ⟨s, _ | _⟩ := perform s script <;> rfl

theorem ending_of_perform {s : σ} {script : Script} (ended : (perform s script).2 = .ok ()) :
    script.ending = .ok () := by
  rw [perform] at ended
  split at ended
  · cases ended
  · exact ended

/-- Scripts with the same lines do the same to a sink, which refuses one of the lines in both, or
    lets both of them come to their ends. -/
theorem perform_of_same_lines {a b : Script} (same : a.lines = b.lines) (s : σ) :
    (perform s a).1 = (perform s b).1 ∧
      ((∃ cause, (perform s a).2 = .error (.sink cause) ∧ (perform s b).2 = .error (.sink cause)) ∨
        ((perform s a).2 = a.ending ∧ (perform s b).2 = b.ending)) := by
  rw [perform, perform, same]
  obtain ⟨s, cause | _⟩ := Sink.writeLines s b.lines
  · exact ⟨rfl, .inl ⟨cause, rfl, rfl⟩⟩
  · exact ⟨rfl, .inr ⟨rfl, rfl⟩⟩

theorem advance_keeps {state : String → σ} (keeps : Sink.Keeps state) (text : String)
    (script : Script) :
    advance (none, state text) script = (script.error?, state (text ++ script.output)) := by
  rw [advance, perform, keeps.writeLines]
  obtain ⟨lines, _ | _⟩ := script <;> rfl

theorem foldl_advance_error (e : ViewError) (s : σ) (scripts : List Script) :
    scripts.foldl advance (some e, s) = (some e, s) := by
  induction scripts with
  | nil => rfl
  | cons script rest ih => exact ih

theorem advance_append (s : σ) (a b : Script) :
    advance (none, s) (a ++ b) = advance (advance (none, s) a) b := by
  simp only [advance, perform_append]
  obtain ⟨s, _ | _⟩ := perform s a <;> rfl

theorem foldl_advance (s : σ) (scripts : List Script) :
    scripts.foldl advance (none, s) = advance (none, s) (join scripts) := by
  induction scripts generalizing s with
  | nil => rfl
  | cons script rest ih =>
    rw [List.foldl_cons, join_cons, advance_append]
    -- From an error on, neither side moves.
    obtain ⟨_ | e, s⟩ := advance (none, s) script
    · exact ih s
    · exact foldl_advance_error e s rest

theorem foldl_advance_keeps {state : String → σ} (keeps : Sink.Keeps state) (text : String)
    (scripts : List Script) :
    scripts.foldl advance (none, state text) =
      ((join scripts).error?, state (text ++ (join scripts).output)) := by
  rw [foldl_advance, advance_keeps keeps]

end Script

end StatusReport
