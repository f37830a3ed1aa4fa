import StatusReport.Proofs.Report.Script

/-! # A sink that refuses only truncates

What a run offers its sink does not depend on the sink. So a sink with room for so many lines gets
the output of the same run without a bound, cut where there is no more room. If something is cut
off, that is the error of the run, and the run is over.

* `Truncated`: a run on a bounded sink, beside the same run on one that takes everything.
* `truncated_run`: a run of scripts is truncated.
* `stays_after_refusal`: it is over at the refusal.
* `refusal_only_truncates`: tables and listings.
-/

namespace StatusReport

open Report (outcome)

/-- The error and the sink that runs end with, on a sink that takes everything and on one with room
    for `n` lines. -/
structure Truncated (n : Nat) (whole part : Option ViewError × Transcript) : Prop where
  cut : Text.CutAfter n whole.2.received.toList part.2.received.toList
  error : part.1 = if part.2.received = whole.2.received then whole.1 else some (.sink .full)

theorem truncated_run (error : Option ViewError) (n : Nat) (scripts : List Script) :
    Truncated n (scripts.foldl Script.advance (error, {}))
      (scripts.foldl Script.advance (error, { room := some n })) := by
  cases error with
  | some e =>
    -- After an error neither sink is offered anything.
    rw [Script.foldl_advance_error, Script.foldl_advance_error]
    exact ⟨⟨List.prefix_refl _, fun _ => rfl, fun h => absurd h (Nat.not_lt_zero n)⟩, rfl⟩
  | none =>
    rw [Transcript.foldl_advance, Script.foldl_advance, Transcript.advance_limited]
    -- Both sinks are offered one and the same script.
    generalize Script.join scripts = script
    simp only [String.empty_append]
    constructor
    · rw [String.toList_ofList]
      exact Transcript.cutAfter_fit n (Text.ended_unlines script.lines)
    · have complete := Transcript.fit_complete n script.output.toList
      by_cases all : (Transcript.fit n script.output.toList).2.2 = true
      · rw [if_pos all, complete.1 all, String.ofList_toList, if_pos rfl]
      · have less : String.ofList (Transcript.fit n script.output.toList).1 ≠ script.output := by
          intro same
          have lists := congrArg String.toList same
          rw [String.toList_ofList] at lists
          exact all (complete.2 lists)
        rw [if_neg all, if_neg less]

/-- After a call that its sink refused, further calls leave error and sink as they are. -/
theorem stays_after_refusal (error : Option ViewError) (n : Nat) (before after : List Script)
    (refused : (before.foldl Script.advance (error, ({ room := some n } : Transcript))).2.received ≠
      (before.foldl Script.advance (error, ({} : Transcript))).2.received) :
    (before ++ after).foldl Script.advance (error, ({ room := some n } : Transcript)) =
      before.foldl Script.advance (error, { room := some n }) := by
  have ended := (truncated_run error n before).error
  -- Since something was refused, the error is that of the sink, and it stays.
  rw [if_neg refused] at ended
  rw [List.foldl_append]
  generalize before.foldl Script.advance (error, ({ room := some n } : Transcript)) = state at ended ⊢
  obtain ⟨error, s⟩ := state
  cases ended
  exact Script.foldl_advance_error _ s after

/-- A sink with room for `n` lines gets the output of a run cut after its `n`-th line feed. The
    error is that of the sink if something is cut off, and that of the whole run otherwise; calls
    after the one that was refused something change neither the sink nor the error. -/
theorem refusal_only_truncates (descriptor : Descriptor) (options : ViewOptions) (n : Nat) :
    let table := TableView.ofDescriptor descriptor options
    let listing := DetailView.ofDescriptor descriptor options
    let unlimited : Transcript := {}
    let limited : Transcript := { room := some n }
    (∀ batches, Truncated n (outcome table unlimited batches) (outcome table limited batches)) ∧
    (∀ before after,
      (outcome table limited before).2.received ≠ (outcome table unlimited before).2.received →
      outcome table limited (before ++ after) = outcome table limited before) ∧
    (∀ records, Truncated n (outcome listing unlimited records) (outcome listing limited records)) ∧
    (∀ before after,
      (outcome listing limited before).2.received ≠ (outcome listing unlimited before).2.received →
      outcome listing limited (before ++ after) = outcome listing limited before) := by
  simp only [Report.outcome_eq, List.map_append]
  exact ⟨fun _ => truncated_run _ n _, fun _ _ => stays_after_refusal _ n _ _,
    fun _ => truncated_run _ n _, fun _ _ => stays_after_refusal _ n _ _⟩

/-- With room for the header only, the first of two batches is refused its row, and nothing comes of
    the second one. -/
theorem refusal_only_truncates_jobs :
    let table := TableView.ofDescriptor Sample.jobs Sample.options
    let limited : Transcript := { room := some 3 }
    let batch := [Sample.job "a" (.int 1536)]
    (outcome table limited [batch]).2.received ≠ (outcome table ({} : Transcript) [batch]).2.received ∧
      outcome table limited ([batch] ++ [batch]) = outcome table limited [batch] := by
  obtain ⟨-, stays, -⟩ := refusal_only_truncates Sample.jobs Sample.options 3
  have refused : (outcome (TableView.ofDescriptor Sample.jobs Sample.options)
        ({ room := some 3 } : Transcript) [[Sample.job "a" (.int 1536)]]).2.received ≠
      (outcome (TableView.ofDescriptor Sample.jobs Sample.options) ({} : Transcript)
        [[Sample.job "a" (.int 1536)]]).2.received := by
    decide +kernel
  exact ⟨refused, stays _ _ refused⟩

end StatusReport
