import StatusReport.Proofs.Alignment.Content

/-! # Runs of an aligner

An aligner is written to and flushed, and the sink inside it breaks and is repaired, in any order.
A flush passes on all that is pending or, while the sink is broken, nothing, and what it does not
pass on stays pending. So at every point of a run the bytes that were written are those that were
passed on, flush by flush, and then the pending ones.

* `TabAligner.Step`, `TabAligner.run`: the steps and what they make of an aligner.
* `TabAligner.deliveries`: what the flushes of a run pass on.
* `TabAligner.Accounts`, `TabAligner.accounts_run`: where the written bytes are after a run.
* `TabAligner.flushes_lose_nothing`: the account of a run, and what a failed flush means for the
  next one.
-/

namespace StatusReport.TabAligner

open Text (Bytes)
open Text.Utf8 (bytesOf)

/-- What can happen to an aligner and the sink inside it. -/
inductive Step where
  | write (bytes : Bytes)
  | flush
  | breakDown
  | repair
deriving DecidableEq, Repr

def Step.written : Step → Bytes
  | .write bytes => bytes
  | _ => []

def written (steps : List Step) : Bytes := steps.flatMap Step.written

@[simp] theorem written_nil : written [] = [] := rfl

@[simp] theorem written_cons (s : Step) (rest : List Step) :
    written (s :: rest) = s.written ++ written rest := List.flatMap_cons

@[simp] theorem written_append (a b : List Step) : written (a ++ b) = written a ++ written b :=
  List.flatMap_append

def step (a : TabAligner SwitchedSink) : Step → TabAligner SwitchedSink
  | .write bytes => a.append bytes
  | .flush => a.flush.1
  | .breakDown => { a with inner.broken := true }
  | .repair => { a with inner.broken := false }

def run (a : TabAligner SwitchedSink) (steps : List Step) : TabAligner SwitchedSink :=
  steps.foldl step a

/-- What a flush passes on: all that is pending, if there is something and the sink inside takes
    its aligned text. -/
def delivery? (a : TabAligner SwitchedSink) : Option Bytes :=
  if a.pending.isEmpty then none
  else
    match (Sink.write a.inner (alignedText a.padding a.pending.toList)).2 with
    | .error _ => none
    | .ok () => some a.pending.toList

def passedOn (a : TabAligner SwitchedSink) : Step → List Bytes
  | .flush => a.delivery?.toList
  | _ => []

def deliveries (a : TabAligner SwitchedSink) : List Step → List Bytes
  | [] => []
  | s :: rest => a.passedOn s ++ deliveries (a.step s) rest

def fresh (padding : Nat) : TabAligner SwitchedSink := ⟨{}, padding, #[]⟩

variable {a : TabAligner SwitchedSink}

theorem run_append (a : TabAligner SwitchedSink) (first second : List Step) :
    a.run (first ++ second) = (a.run first).run second := List.foldl_append

theorem deliveries_append (a : TabAligner SwitchedSink) (first second : List Step) :
    a.deliveries (first ++ second) = a.deliveries first ++ (a.run first).deliveries second := by
  induction first generalizing a with
  | nil => rfl
  | cons s rest ih => rw [List.cons_append, deliveries, deliveries, ih, List.append_assoc]; rfl

theorem exists_flush_of_mem {steps : List Step} {bytes : Bytes}
    (member : bytes ∈ a.deliveries steps) :
    ∃ before after, steps = before ++ .flush :: after ∧
      (a.run before).delivery? = some bytes := by
  induction steps generalizing a with
  | nil => cases member
  | cons s rest ih =>
    rw [deliveries, List.mem_append] at member
    obtain here | later := member
    · cases s with
      | flush => exact ⟨[], rest, rfl, Option.mem_toList.1 here⟩
      | write _ | breakDown | repair => cases here
    · obtain ⟨before, after, rfl, delivered⟩ := ih later
      exact ⟨s :: before, after, rfl, delivered⟩

/-! ## Flushes -/

theorem flush_broken (broken : a.inner.broken = true) :
    a.flush = (a, .error .full) ∧ a.delivery? = none := by
  obtain ⟨⟨received, _⟩, padding, pending⟩ := a
  cases broken
  rw [flush, delivery?]
  cases empty : pending.isEmpty with
  | true => exact ⟨rfl, rfl⟩
  | false =>
    -- There is text to pass on, so the sink refuses it before it is asked to flush.
    have filled : alignedText padding pending.toList ≠ "" := by
      refine alignedText_ne_empty fun nothing => ?_
      rw [Array.toList_eq_nil_iff] at nothing
      simp [nothing] at empty
    have refused : Sink.write (⟨received, true⟩ : SwitchedSink)
        (alignedText padding pending.toList) = (⟨received, true⟩, .error .full) := by
      simp [Sink.write, SwitchedSink.write, filled]
    simp only [Bool.false_eq_true, if_false, refused]
    exact ⟨trivial, trivial⟩

theorem flush_working (working : a.inner.broken = false) :
    a.flush = (⟨⟨a.inner.received ++ alignedText a.padding a.pending.toList, false⟩, a.padding, #[]⟩,
        .ok ()) ∧
      a.delivery? = if a.pending.isEmpty then none else some a.pending.toList := by
  obtain ⟨⟨received, _⟩, padding, pending⟩ := a
  cases working
  rw [flush, delivery?]
  cases empty : pending.isEmpty with
  | true =>
    rw [Array.isEmpty_iff] at empty
    subst empty
    rw [Array.toList_empty, alignedText_nil, String.append_empty]
    exact ⟨rfl, rfl⟩
  | false => exact ⟨rfl, rfl⟩

/-- A flush that fails changes nothing, whatever it had to pass on. -/
theorem flush_of_error {e : SinkError} (failed : a.flush.2 = .error e) : a.flush.1 = a := by
  cases state : a.inner.broken with
  | true => rw [(flush_broken state).1]
  | false =>
    rw [(flush_working state).1] at failed
    cases failed

theorem flush_of_empty (empty : a.pending = #[]) : a.flush.1 = a ∧ a.delivery? = none := by
  cases state : a.inner.broken with
  | true => rw [(flush_broken state).1, (flush_broken state).2]; exact ⟨rfl, rfl⟩
  | false =>
    obtain ⟨⟨received, _⟩, padding, pending⟩ := a
    cases state
    subst empty
    exact ⟨rfl, rfl⟩

/-! ## The account of a run -/

/-- Where bytes are that were pending or written: what is passed on of them, piece by piece, has
    arrived aligned, and the rest is pending. -/
structure Accounts (before : TabAligner SwitchedSink) (bytes : Bytes) (sent : List Bytes)
    (after : TabAligner SwitchedSink) : Prop where
  padding : after.padding = before.padding
  bytes_eq : before.pending.toList ++ bytes = sent.flatten ++ after.pending.toList
  received : after.inner.received =
    before.inner.received ++ String.join (sent.map (alignedText before.padding))
  filled : ∀ piece ∈ sent, piece ≠ []

theorem Accounts.refl (a : TabAligner SwitchedSink) : Accounts a [] [] a :=
  ⟨rfl, by simp, by simp, by simp⟩

theorem Accounts.trans {b c : TabAligner SwitchedSink} {first second : Bytes}
    {sent later : List Bytes} (h : Accounts a first sent b) (h' : Accounts b second later c) :
    Accounts a (first ++ second) (sent ++ later) c where
  padding := h'.padding.trans h.padding
  bytes_eq := by
    rw [← List.append_assoc, h.bytes_eq, List.append_assoc, h'.bytes_eq, List.flatten_append,
      List.append_assoc]
  received := by
    rw [h'.received, h.received, h.padding, List.map_append, String.join_append,
      String.append_assoc]
  filled piece member := (List.mem_append.1 member).elim (h.filled piece) (h'.filled piece)

theorem accounts_flush (a : TabAligner SwitchedSink) : Accounts a [] a.delivery?.toList a.flush.1 := by
  cases state : a.inner.broken with
  | true =>
    rw [(flush_broken state).1, (flush_broken state).2]
    exact .refl a
  | false =>
    rw [(flush_working state).1, (flush_working state).2]
    cases empty : a.pending.isEmpty with
    | true =>
      rw [Array.isEmpty_iff] at empty
      exact ⟨rfl, by simp [empty], by simp [empty, alignedText_nil], by simp⟩
    | false => exact ⟨rfl, by simp, by simp, by simpa using empty⟩

theorem accounts_step (a : TabAligner SwitchedSink) (s : Step) :
    Accounts a s.written (a.passedOn s) (a.step s) := by
  cases s with
  | write bytes =>
    exact ⟨rfl, by simp [step, passedOn, append, Step.written], by simp [step, passedOn, append],
      by simp [passedOn]⟩
  | flush => exact accounts_flush a
  | breakDown | repair =>
    exact ⟨rfl, by simp [step, passedOn, Step.written], by simp [step, passedOn],
      by simp [passedOn]⟩

theorem accounts_run (a : TabAligner SwitchedSink) (steps : List Step) :
    Accounts a (written steps) (a.deliveries steps) (a.run steps) := by
  induction steps generalizing a with
  | nil => exact .refl a
  | cons s rest ih =>
    rw [written_cons]
    exact (accounts_step a s).trans (ih (a.step s))

/-! ## Failed flushes -/

theorem deliveries_of_broken (broken : a.inner.broken = true) {steps : List Step}
    (unrepaired : .repair ∉ steps) : a.deliveries steps = [] := by
  induction steps generalizing a with
  | nil => rfl
  | cons s rest ih =>
    have other := List.ne_of_not_mem_cons unrepaired
    have others := List.not_mem_of_not_mem_cons unrepaired
    rw [deliveries]
    cases s with
    | write bytes => exact ih (a := a.append bytes) broken others
    | flush =>
      obtain ⟨same, nothing⟩ := flush_broken broken
      rw [passedOn, step, same, nothing]
      exact ih broken others
    | breakDown => exact ih rfl others
    | repair => exact absurd rfl other

theorem deliveries_of_unflushed {steps : List Step} (unflushed : .flush ∉ steps) :
    a.deliveries steps = [] := by
  induction steps generalizing a with
  | nil => rfl
  | cons s rest ih =>
    have other := List.ne_of_not_mem_cons unflushed
    have others := List.not_mem_of_not_mem_cons unflushed
    rw [deliveries, ih others]
    cases s with
    | flush => exact absurd rfl other
    | write _ | breakDown | repair => rfl

/-- The next flush passes on what was pending and what was written meanwhile, as one text. -/
theorem run_flush {steps : List Step} (nothing : a.deliveries steps = [])
    (working : (a.run steps).inner.broken = false) :
    a.run (steps ++ [.flush]) =
      ⟨⟨a.inner.received ++ alignedText a.padding (a.pending.toList ++ written steps), false⟩,
        a.padding, #[]⟩ := by
  obtain ⟨padding, bytes, received, -⟩ := accounts_run a steps
  rw [nothing] at bytes received
  rw [run_append]
  change (a.run steps).flush.1 = _
  rw [(flush_working working).1, padding, bytes, received]
  simp

/-- After any run the bytes written are those passed on, flush by flush, and then the pending ones;
    and what has arrived is what was passed on, each piece aligned by itself. A flush that fails
    changes nothing. So once the sink is repaired, the next flush passes on what was pending then
    and what was written since, as one text. With nothing pending a flush passes on nothing, and
    closing is flushing. -/
theorem flushes_lose_nothing (padding : Nat) (steps : List Step) :
    let a := (fresh padding).run steps
    let sent := (fresh padding).deliveries steps
    (written steps = sent.flatten ++ a.pending.toList ∧
      a.inner.received = String.join (sent.map (alignedText padding)) ∧
      ∀ piece ∈ sent, piece ≠ [] ∧ ∃ before after, steps = before ++ .flush :: after ∧
        ((fresh padding).run before).delivery? = some piece) ∧
    (∀ e, a.flush.2 = .error e → a.flush.1 = a) ∧
    (a.inner.broken = true → a.flush.2 = .error .full ∧
      ∀ meanwhile more, .repair ∉ meanwhile → .flush ∉ more →
        (a.run (meanwhile ++ .repair :: more)).inner.broken = false →
        a.run (meanwhile ++ .repair :: more ++ [.flush]) =
          ⟨⟨a.inner.received ++
              alignedText padding (a.pending.toList ++ written meanwhile ++ written more), false⟩,
            padding, #[]⟩) ∧
    (a.pending = #[] → a.flush.1 = a ∧ a.delivery? = none) ∧
    a.close = (a.flush.1.inner, a.flush.2) := by
  intro a sent
  obtain ⟨kept, bytes, received, filled⟩ := accounts_run (fresh padding) steps
  refine ⟨⟨bytes, ?_, fun piece member => ⟨filled piece member, exists_flush_of_mem member⟩⟩,
    fun e => flush_of_error, fun broken => ⟨by rw [(flush_broken broken).1], ?_⟩,
    flush_of_empty, rfl⟩
  · exact received.trans String.empty_append
  · intro meanwhile more unrepaired unflushed working
    have nothing : a.deliveries (meanwhile ++ .repair :: more) = [] := by
      rw [deliveries_append, deliveries_of_broken broken unrepaired, deliveries_of_unflushed]
      · rfl
      · exact List.not_mem_cons_of_ne_of_not_mem nofun unflushed
    have next := run_flush nothing working
    rw [next, kept]
    simp [Step.written, fresh]

/-- A row is pending when the sink breaks. It is passed on with the row written since, aligned with
    it, when the sink is repaired. -/
theorem flushes_lose_nothing_rows :
    let a := (fresh 2).run [.write (bytesOf "ab\tc\n"), .breakDown, .flush]
    a.inner.broken = true ∧ a.flush.1 = a ∧
      a.run ([.write (bytesOf "d\te\n"), .flush] ++ .repair :: [] ++ [.flush]) =
        ⟨⟨"ab  c\nd   e\n", false⟩, 2, #[]⟩ := by
  dsimp only
  obtain ⟨-, failed, retried, -⟩ :=
    flushes_lose_nothing 2 [.write (bytesOf "ab\tc\n"), .breakDown, .flush]
  generalize state : (fresh 2).run [.write (bytesOf "ab\tc\n"), .breakDown, .flush] = a
    at failed retried ⊢
  have broken : a.inner.broken = true := by subst state; decide +kernel
  have pending : a.pending.toList = bytesOf "ab\tc\n" := by subst state; decide +kernel
  have nothing : a.inner.received = "" := by subst state; decide +kernel
  have text : alignedText 2 (bytesOf "ab\tc\n" ++ bytesOf "d\te\n") = "ab  c\nd   e\n" := by
    decide +kernel
  obtain ⟨refused, again⟩ := retried broken
  have works : (a.run ([.write (bytesOf "d\te\n"), .flush] ++ [.repair])).inner.broken = false := by
    subst state
    decide +kernel
  have next := again [.write (bytesOf "d\te\n"), .flush] [] (by decide) (by decide) works
  refine ⟨broken, failed .full refused, next.trans ?_⟩
  simp [pending, nothing, text, Step.written]

end StatusReport.TabAligner
