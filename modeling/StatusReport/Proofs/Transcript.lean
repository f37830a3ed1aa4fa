import StatusReport.Alignment
import StatusReport.Proofs.Script

/-! # Scripts on the sinks there are

A transcript without a bound takes all of a script. One with room for `n` lines takes the text of
the script through its `n`-th line feed, and refuses if that is not all. An aligner takes all of it
and holds it back.

* `Text.CutAfter`: a text cut after a number of line feeds.
* `Transcript.cutAfter_fit`: what fits is such a cut.
* `Transcript.advance_limited`: a script on a transcript with a bound.
* `Transcript.keeps`, `TabAligner.keeps`: the sinks that take everything.
-/

namespace StatusReport

/-! ## Cut texts -/

namespace Text

/-- One text is another one cut after its `n`-th line feed, or all of it if there are no more than
    `n`. -/
structure CutAfter (n : Nat) (whole part : List Char) : Prop where
  isPrefix : part <+: whole
  short : whole.count '\n' ≤ n → part = whole
  long : n < whole.count '\n' → part.count '\n' = n ∧ ∀ c ∈ part.getLast?, c = '\n'

def Ended (cs : List Char) : Prop := ∀ c ∈ cs.getLast?, c = '\n'

theorem Ended.of_cons {c : Char} {cs : List Char} (h : Ended (c :: cs)) : Ended cs := by
  cases cs with
  | nil => simp [Ended]
  | cons d cs => simpa [Ended] using h

theorem Ended.append {a b : List Char} (ha : Ended a) (hb : Ended b) : Ended (a ++ b) := by
  intro c hc
  rw [List.getLast?_append] at hc
  cases h : b.getLast? with
  | none => exact ha c (by simpa [h] using hc)
  | some d => exact hb c (by simpa [h] using hc)

theorem Ended.count_pos {c : Char} {cs : List Char} (h : Ended (c :: cs)) :
    0 < (c :: cs).count '\n' := by
  rw [List.count_pos_iff]
  have last : (c :: cs).getLast (by simp) = '\n' :=
    h _ (by simp [List.getLast?_eq_some_getLast])
  exact last ▸ List.getLast_mem (by simp)

theorem ended_unlines (lines : List String) : Ended (unlines lines).toList := by
  induction lines with
  | nil => simp [Ended]
  | cons line rest ih =>
    rw [unlines_cons, String.toList_append, String.toList_append]
    refine Ended.append ?_ ih
    simp [Ended]

end Text

namespace Transcript

open Text (CutAfter Ended)

@[simp] theorem fit_zero (cs : List Char) : fit 0 cs = ([], 0, cs.isEmpty) := by
  cases cs <;> rfl

theorem fit_append (room : Nat) (a b : List Char) :
    fit room (a ++ b) =
      if (fit room a).2.2 then
        ((fit room a).1 ++ (fit (fit room a).2.1 b).1, (fit (fit room a).2.1 b).2)
      else fit room a := by
  induction a generalizing room with
  | nil => cases room <;> simp [fit]
  | cons c cs ih =>
    cases room with
    | zero => simp
    | succ room =>
      simp only [List.cons_append, fit, ih]
      by_cases complete : (fit (if c = '\n' then room else room + 1) cs).2.2 = true <;>
        simp [complete]

theorem fit_complete (room : Nat) (cs : List Char) : (fit room cs).2.2 = true ↔ (fit room cs).1 = cs := by
  induction cs generalizing room with
  | nil => cases room <;> simp [fit]
  | cons c cs ih =>
    cases room with
    | zero => simp
    | succ room => simp [fit, ih]

/-- What fits is the text cut after so many line feeds. -/
theorem cutAfter_fit (room : Nat) {cs : List Char} (ended : Ended cs) :
    CutAfter room cs (fit room cs).1 := by
  induction cs generalizing room with
  | nil => cases room <;> exact ⟨by simp [fit], by simp [fit], by simp⟩
  | cons c cs ih =>
    cases room with
    | zero =>
      -- Nothing is taken, and that is less than all: text that ends in a line feed has one.
      have pos := ended.count_pos
      exact ⟨by simp, fun h => by omega, fun _ => by simp⟩
    | succ room =>
      simp only [fit]
      by_cases feed : c = '\n'
      · subst feed
        obtain ⟨isPrefix, short, long⟩ := ih room ended.of_cons
        refine ⟨by simpa using isPrefix, fun h => ?_, fun h => ?_⟩
        · simpa using short (by simpa using h)
        · obtain ⟨count, last⟩ := long (by simpa using h)
          refine ⟨by simpa using count, fun d hd => ?_⟩
          -- The last character taken is this line feed, unless more is taken after it.
          simp only [if_true] at hd
          rw [List.getLast?_cons] at hd
          cases taken : (fit room cs).1.getLast? with
          | none => simpa [taken, eq_comm] using hd
          | some e => exact last d (by simpa [taken] using hd)
      · obtain ⟨isPrefix, short, long⟩ := ih (room + 1) ended.of_cons
        have same : (c :: cs).count '\n' = cs.count '\n' := by simp [feed]
        simp only [feed, if_false]
        refine ⟨by simpa using isPrefix, fun h => ?_, fun h => ?_⟩
        · simpa using short (by omega)
        · obtain ⟨count, last⟩ := long (by omega)
          refine ⟨by simpa [feed] using count, fun d hd => ?_⟩
          rw [List.getLast?_cons] at hd
          cases taken : (fit (room + 1) cs).1.getLast? with
          | none =>
            -- Something is taken after it, as the room for another line is used up.
            rw [List.getLast?_eq_none_iff.1 taken] at count
            simp at count
          | some e => exact last d (by simpa [taken] using hd)

theorem keeps : Sink.Keeps fun text => (⟨text, none⟩ : Transcript) := fun text more =>
  write_unbounded text more

theorem foldl_advance (scripts : List Script) :
    scripts.foldl Script.advance (none, ({} : Transcript)) =
      ((Script.join scripts).error?, ⟨(Script.join scripts).output, none⟩) := by
  have run := Script.foldl_advance_keeps keeps "" scripts
  rwa [String.empty_append] at run

theorem writeLines_limited (received : String) (room : Nat) (lines : List String) :
    Sink.writeLines (⟨received, some room⟩ : Transcript) lines =
      (⟨received ++ .ofList (fit room (unlines lines).toList).1,
        some (fit room (unlines lines).toList).2.1⟩,
       if (fit room (unlines lines).toList).2.2 then .ok () else .error .full) := by
  induction lines generalizing received room with
  | nil => cases room <;> simp [Sink.writeLines, fit]
  | cons line rest ih =>
    have wrote : Sink.writeLine (⟨received, some room⟩ : Transcript) line =
        (⟨received ++ .ofList (fit room (line ++ "\n").toList).1,
          some (fit room (line ++ "\n").toList).2.1⟩,
         if (fit room (line ++ "\n").toList).2.2 then .ok () else .error .full) := rfl
    have split : (unlines (line :: rest)).toList =
        (line ++ "\n").toList ++ (unlines rest).toList := String.toList_append
    rw [Sink.writeLines, wrote, split, fit_append]
    -- What fits of the line decides whether the next one is offered.
    generalize (line ++ "\n").toList = text
    cases complete : (fit room text).2.2 with
    | false => simp [complete]
    | true => simp [ih, String.append_assoc]

/-- A bounded transcript takes what fits of a script. Taking less is an error of the sink. -/
theorem advance_limited (received : String) (room : Nat) (script : Script) :
    Script.advance (none, (⟨received, some room⟩ : Transcript)) script =
      (if (fit room script.output.toList).2.2 then script.error? else some (.sink .full),
        ⟨received ++ .ofList (fit room script.output.toList).1,
          some (fit room script.output.toList).2.1⟩) := by
  rw [Script.advance, Script.perform, writeLines_limited]
  change _ = (if (fit room (unlines script.lines).toList).2.2 then _ else _, _)
  cases (fit room (unlines script.lines).toList).2.2 with
  | false => rfl
  | true => rcases script with ⟨lines, _ | _⟩ <;> rfl

end Transcript

namespace TabAligner

variable {σ : Type u}

theorem append_append (a : TabAligner σ) (first second : Text.Bytes) :
    (a.append first).append second = a.append (first ++ second) := by
  have pending : a.pending ++ first ++ second = a.pending ++ (first ++ second) := by
    rw [← Array.toList_inj]
    simp
  simp only [append, pending]

theorem keeps [Sink σ] (a : TabAligner σ) : Sink.Keeps fun text => a.append (Text.Utf8.bytesOf text) := by
  intro text more
  simp only [Text.Utf8.bytesOf_append, ← append_append]
  rfl

end TabAligner

end StatusReport
