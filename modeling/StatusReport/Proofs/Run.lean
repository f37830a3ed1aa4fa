import StatusReport.Proofs.Transcript

/-! # Runs of reports

A table is given a list of records at each call, a listing one record. What they have in common is
all that a run of calls is about: a call performs a script, and what a report keeps from one call to
the next is the error that ended it, on which no script depends.

* `Report`, `Report.On`: a kind of report, and its calls on a kind of sink.
* `Report.call`: the script of a call, errors before it included.
* `Report.Described`: a view that is made of a descriptor, and what can be wrong with it.
* `Report.renderAll`, `Report.renderAll_eq`: a run of calls is a run of scripts.
* `Report.Described.outcome_congr`: views of one descriptor that make the same of every run.
* `Report.writtenAlone`: what a call writes through a fresh report of its own.
* `Report.renderAll_of_ok`, `Report.renderAll_of_failure`: a run without an error, and one with it.
-/

namespace StatusReport

/-- A kind of report: views `ν` that are given inputs `ι`. -/
class Report (ν : Type) (ι : outParam Type) where
  error : ν → Option ViewError
  withError : ν → Option ViewError → ν
  result : ν → Except ViewError Unit
  /-- What a call writes if nothing refuses it, and how it then ends. -/
  script : ν → ι → Script
  error_withError (view : ν) (e : Option ViewError) : error (withError view e) = e
  withError_error (view : ν) : withError view (error view) = view
  withError_withError (view : ν) (e e' : Option ViewError) :
    withError (withError view e) e' = withError view e'
  script_withError (view : ν) (e : Option ViewError) : script (withError view e) = script view
  result_eq (view : ν) :
    result view =
      match error view with
      | some e => .error e
      | none => .ok ()

/-- The calls of a kind of report on a kind of sink. Unless an error came before, a call performs its
    script. -/
class Report.On (ν : Type) {ι : Type} [Report ν ι] (σ : Type u) [Sink σ] where
  render : ν → σ → ι → ν × σ
  render_eq (view : ν) (s : σ) (input : ι) :
    render view s input =
      (Report.withError view (Script.advance (Report.error view, s) (Report.script view input)).1,
        (Script.advance (Report.error view, s) (Report.script view input)).2)

namespace Report

variable {ν ι : Type} [Report ν ι]

theorem result_of_fresh (view : ν) (fresh : error view = none) : result view = .ok () := by
  rw [result_eq, fresh]

theorem result_of_error (view : ν) {e : ViewError} (ended : error view = some e) :
    result view = .error e := by
  rw [result_eq, ended]

theorem withError_none (view : ν) (fresh : error view = none) : withError view none = view := by
  rw [← fresh, withError_error]

/-! ## Calls -/

/-- The script of a call, which is but an error if one came before. -/
def call (view : ν) (input : ι) : Script :=
  match error view with
  | some e => ⟨[], .error e⟩
  | none => script view input

theorem call_of_fresh (view : ν) (fresh : error view = none) (input : ι) :
    call view input = script view input := by
  rw [call, fresh]

theorem call_of_error (view : ν) {e : ViewError} (ended : error view = some e) (input : ι) :
    call view input = ⟨[], .error e⟩ := by
  rw [call, ended]

section Calls

variable {σ : Type u} [Sink σ] [On ν σ] (view : ν)

theorem result_render (fresh : error view = none) (s : σ) (input : ι) :
    result (On.render view s input).1 = (Script.perform s (script view input)).2 := by
  rw [On.render_eq, fresh, Script.advance_none, result_eq, error_withError]
  obtain ⟨s, _ | _⟩ := Script.perform s (script view input) <;> rfl

theorem sink_render (fresh : error view = none) (s : σ) (input : ι) :
    (On.render view s input).2 = (Script.perform s (script view input)).1 := by
  rw [On.render_eq, fresh, Script.advance_none]

variable {state : String → σ} (keeps : Sink.Keeps state)
include keeps

theorem render_keeps (fresh : error view = none) (text : String) (input : ι) :
    On.render view (state text) input =
      (withError view (script view input).error?,
        state (text ++ (script view input).output)) := by
  rw [On.render_eq, fresh, Script.advance_keeps keeps]

theorem result_render_keeps (fresh : error view = none) (text : String) (input : ι) :
    result (On.render view (state text) input).1 = (script view input).ending := by
  rw [render_keeps view keeps fresh, result_eq, error_withError, Script.error?]
  cases (script view input).ending <;> rfl

theorem render_call (text : String) (input : ι) :
    result (On.render view (state text) input).1 = (call view input).ending ∧
      (On.render view (state text) input).2 = state (text ++ (call view input).output) := by
  cases ended : error view with
  | none =>
    rw [call_of_fresh view ended, result_render_keeps view keeps ended,
      render_keeps view keeps ended]
    exact ⟨rfl, rfl⟩
  | some e =>
    rw [call_of_error view ended, On.render_eq, ended, Script.advance, result_eq, error_withError,
      Script.output, unlines_nil, String.append_empty]
    exact ⟨rfl, rfl⟩

end Calls

/-- A view that is made of a descriptor and options: without a schema it has the error of the schema,
    and with one only a formatter ends a call. -/
structure Described (descriptor : Descriptor) (options : ViewOptions) (view : ν) : Prop where
  failed : ∀ e, Schema.build descriptor options.formatters = .error e →
    error view = some (.schema e)
  fresh : ∀ schema, Schema.build descriptor options.formatters = .ok schema → error view = none
  refused : ∀ schema, Schema.build descriptor options.formatters = .ok schema → ∀ input e,
    (script view input).ending = .error e → ∃ selector cause, e = .format selector cause

namespace Described

variable {descriptor : Descriptor} {options : ViewOptions} {view : ν}
  (described : Described descriptor options view)
include described

theorem call_of_error {e : SchemaError}
    (failed : Schema.build descriptor options.formatters = .error e) (input : ι) :
    call view input = ⟨[], .error (.schema e)⟩ :=
  Report.call_of_error view (described.failed e failed) input

theorem call_of_build {schema : Schema}
    (built : Schema.build descriptor options.formatters = .ok schema) (input : ι) :
    call view input = script view input :=
  call_of_fresh view (described.fresh schema built) input

theorem exists_build (fresh : error view = none) :
    ∃ schema, Schema.build descriptor options.formatters = .ok schema := by
  cases built : Schema.build descriptor options.formatters with
  | ok schema => exact ⟨schema, rfl⟩
  | error e => cases fresh.symm.trans (described.failed e built)

end Described

/-! ## Runs -/

section Runs

variable {σ : Type u} [Sink σ] [On ν σ]

def renderAll (view : ν) (s : σ) (inputs : List ι) : ν × σ :=
  inputs.foldl (fun state input => On.render state.1 state.2 input) (view, s)

/-- A run performs the scripts of its calls. -/
theorem renderAll_eq (view : ν) (s : σ) (inputs : List ι) :
    renderAll view s inputs =
      (withError view ((inputs.map (script view)).foldl Script.advance (error view, s)).1,
        ((inputs.map (script view)).foldl Script.advance (error view, s)).2) := by
  induction inputs generalizing view s with
  | nil => exact Prod.ext (withError_error view).symm rfl
  | cons input rest ih =>
    change renderAll (On.render view s input).1 (On.render view s input).2 rest = _
    -- Only the error of the view changes, and scripts do not depend on it.
    rw [On.render_eq, ih, withError_withError, script_withError, error_withError]
    rfl

def outcome (view : ν) (s : σ) (inputs : List ι) : Option ViewError × σ :=
  (error (renderAll view s inputs).1, (renderAll view s inputs).2)

theorem outcome_eq (view : ν) (s : σ) (inputs : List ι) :
    outcome view s inputs =
      (inputs.map (script view)).foldl Script.advance (error view, s) := by
  rw [outcome, renderAll_eq, error_withError]

theorem renderAll_of_error (view : ν) {e : ViewError} (ended : error view = some e) (s : σ)
    (inputs : List ι) : renderAll view s inputs = (view, s) := by
  rw [renderAll_eq, ended, Script.foldl_advance_error, ← ended, withError_error]

theorem Described.renderAll_of_unbuilt {descriptor : Descriptor} {options : ViewOptions} {view : ν}
    (described : Described descriptor options view) {e : SchemaError}
    (failed : Schema.build descriptor options.formatters = .error e) (s : σ) (inputs : List ι) :
    (renderAll view s inputs).2 = s ∧ error (renderAll view s inputs).1 = some (.schema e) ∧
      result (renderAll view s inputs).1 = .error (.schema e) := by
  have ended := described.failed e failed
  rw [renderAll_of_error view ended]
  exact ⟨rfl, ended, result_of_error view ended⟩

/-- Views of one descriptor make the same of all inputs if both have a schema or neither has, and
    with it they have the same scripts. -/
theorem Described.outcome_congr {descriptor : Descriptor} {options options' : ViewOptions}
    {view view' : ν} (described : Described descriptor options view)
    (described' : Described descriptor options' view')
    (builds : Schema.build descriptor options.formatters =
      Schema.build descriptor options'.formatters)
    (scripts : ∀ schema, Schema.build descriptor options.formatters = .ok schema →
      ∀ input, script view input = script view' input) (s : σ) (inputs : List ι) :
    outcome view s inputs = outcome view' s inputs := by
  cases built : Schema.build descriptor options.formatters with
  | error e =>
    have ended := described.failed e built
    have ended' := described'.failed e (builds.symm.trans built)
    rw [outcome, outcome, renderAll_of_error view ended, renderAll_of_error view' ended', ended,
      ended']
  | ok schema =>
    have fresh := described.fresh schema built
    have fresh' := described'.fresh schema (builds.symm.trans built)
    rw [outcome_eq, outcome_eq, fresh, fresh', funext (scripts schema built)]

end Runs

section Alone

variable [On ν Transcript]

theorem received_render (view : ν) (fresh : error view = none) (input : ι) :
    (On.render view ({} : Transcript) input).2.received = (script view input).output := by
  have rendered := render_keeps view Transcript.keeps fresh "" input
  rw [String.empty_append] at rendered
  exact congrArg (·.2.received) rendered

/-- What is written for an input through a fresh view of its own. -/
def writtenAlone (view : ν) (input : ι) : String :=
  (On.render view ({} : Transcript) input).2.received

variable (view : ν) (fresh : error view = none)
include fresh

theorem writtenAlone_eq (input : ι) : writtenAlone view input = (script view input).output :=
  received_render view fresh input

theorem join_writtenAlone (inputs : List ι) :
    String.join (inputs.map (writtenAlone view)) =
      unlines ((inputs.map (script view)).flatMap Script.lines) := by
  rw [List.flatMap_map, unlines_flatMap]
  exact congrArg String.join (List.map_congr_left fun input _ => writtenAlone_eq view fresh input)

/-- As long as no call has an error, each writes what it would write alone. -/
theorem renderAll_of_ok {inputs : List ι}
    (ended : ∀ input ∈ inputs, (script view input).ending = .ok ()) :
    renderAll view ({} : Transcript) inputs =
      (view, ⟨String.join (inputs.map (writtenAlone view)), none⟩) := by
  have joined := Script.join_of_ok (List.forall_mem_map.2 ended)
  rw [renderAll_eq, fresh, Transcript.foldl_advance, joined, join_writtenAlone view fresh]
  exact Prod.ext (withError_none view fresh) rfl

/-- The first call with an error is the last one that writes, whatever comes after it. -/
theorem renderAll_of_failure {before : List ι} {input : ι} {e : ViewError}
    (ended : ∀ earlier ∈ before, (script view earlier).ending = .ok ())
    (failed : (script view input).ending = .error e) (after : List ι) :
    renderAll view ({} : Transcript) (before ++ input :: after) =
      (withError view (some e),
        ⟨String.join ((before ++ [input]).map (writtenAlone view)), none⟩) := by
  -- Joining the scripts drops those after the first that ends in an error.
  have joined := Script.join_of_error (List.forall_mem_map.2 ended) failed (after.map (script view))
  rw [renderAll_eq, fresh, Transcript.foldl_advance, List.map_append, List.map_cons, joined,
    join_writtenAlone view fresh, List.map_append, List.flatMap_append, List.map_singleton,
    List.flatMap_singleton]
  rfl

end Alone

end Report

end StatusReport
