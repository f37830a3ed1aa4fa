import StatusReport.Proofs.Alignment.Run

/-! # Flush points

A run is orderly if the sink works throughout, each flush comes at the end of a line, and nothing is
left unflushed. Then the deliveries are whole lines and make up all that was written, so the reader
of the text meets the same characters wherever the flushes are: each delivery is aligned by itself,
and this moves nothing but blanks.

* `TabAligner.Orderly`: the runs.
* `TabAligner.Orderly.pieces`: what an orderly run delivers.
* `TabAligner.alignment_moves_blanks`: the delivered text against the written bytes, against another
  run over these bytes, and against itself when it is aligned again.
-/

namespace StatusReport.TabAligner

open Text (Bytes lines)
open Text.Utf8 (bytesOf decodeLossy lineFeed)

def keep (kept : Bytes) : Step → Bytes
  | .write bytes => kept ++ bytes
  | .flush => []
  | .breakDown | .repair => kept

/-- The bytes that are written after the last flush. -/
def sinceFlush (steps : List Step) : Bytes := steps.foldl keep []

/-- The sink works, every flush comes at the end of a line, and nothing is left unflushed. -/
structure Orderly (steps : List Step) : Prop where
  unbroken : .breakDown ∉ steps
  ended : steps.getLast? = some .flush
  bounded : ∀ before after, steps = before ++ .flush :: after → Text.Utf8.Ended (sinceFlush before)

theorem bounded_of_take {steps : List Step}
    (ended : ∀ i < steps.length, steps[i]? = some .flush →
      Text.Utf8.Ended (sinceFlush (steps.take i)))
    (before after : List Step) (cut : steps = before ++ .flush :: after) :
    Text.Utf8.Ended (sinceFlush before) := by
  subst cut
  simpa using ended before.length (by simp) (by simp)

/-! ## The state of a working run -/

section Working

variable {a : TabAligner SwitchedSink} (working : a.inner.broken = false)
include working

theorem step_working {s : Step} (unbroken : s ≠ .breakDown) :
    (a.step s).inner.broken = false ∧ (a.step s).pending.toList = keep a.pending.toList s := by
  cases s with
  | write bytes => exact ⟨working, by simp [step, append, keep]⟩
  | flush =>
    rw [step, (flush_working working).1]
    exact ⟨rfl, rfl⟩
  | breakDown => exact absurd rfl unbroken
  | repair => exact ⟨rfl, rfl⟩

theorem run_working {steps : List Step} (unbroken : .breakDown ∉ steps) :
    (a.run steps).inner.broken = false ∧
      (a.run steps).pending.toList = steps.foldl keep a.pending.toList := by
  induction steps generalizing a with
  | nil => exact ⟨working, rfl⟩
  | cons s rest ih =>
    obtain ⟨still, kept⟩ := step_working working (List.ne_of_not_mem_cons unbroken).symm
    have later := ih still (List.not_mem_of_not_mem_cons unbroken)
    rwa [kept] at later

end Working

/-- An orderly run passes on all that is written, in pieces that end a line. -/
theorem Orderly.pieces {steps : List Step} (orderly : Orderly steps) (padding : Nat) :
    ∃ sent : List Bytes, (∀ piece ∈ sent, Text.Utf8.Ended piece) ∧ written steps = sent.flatten ∧
      ((fresh padding).run steps).inner.received = String.join (sent.map (alignedText padding)) := by
  obtain ⟨-, bytes, received, -⟩ := accounts_run (fresh padding) steps
  refine ⟨(fresh padding).deliveries steps, ?_, ?_, received.trans String.empty_append⟩
  · intro piece member
    obtain ⟨before, after, cut, delivered⟩ := exists_flush_of_mem member
    have unbroken : .breakDown ∉ before := by
      intro inside
      exact orderly.unbroken (cut ▸ List.mem_append_left _ inside)
    obtain ⟨working, pending⟩ := run_working (a := fresh padding) rfl unbroken
    rw [(flush_working working).2] at delivered
    split at delivered
    · cases delivered
    · rw [← Option.some_inj.1 delivered, pending]
      exact orderly.bounded before after cut
  · -- The run ends with a flush, which leaves nothing pending.
    obtain ⟨front, last⟩ := List.getLast?_eq_some_iff.1 orderly.ended
    have nothing : steps.foldl keep (fresh padding).pending.toList = [] := by
      rw [last, List.foldl_append]
      rfl
    have pending := (run_working (a := fresh padding) rfl orderly.unbroken).2
    rw [pending, nothing, List.append_nil] at bytes
    exact bytes

/-! ## Pieces aligned apart -/

theorem toList_join_map (f : Bytes → String) (pieces : List Bytes) :
    (String.join (pieces.map f)).toList = (pieces.map fun piece => (f piece).toList).flatten := by
  rw [String.toList_join, List.flatMap_map, List.flatMap_def]

theorem ended_decodeLossy {bytes : Bytes} (ended : Text.Utf8.Ended bytes) :
    Text.Ended (decodeLossy bytes) := by
  by_cases filled : bytes = []
  · rw [filled]
    exact nofun
  · obtain ⟨before, rfl⟩ := ended.eq_append filled
    rw [Text.Utf8.decodeLossy_append_feed]
    simp [Text.Ended]

theorem ended_encode {cs : List Char} (ended : Text.Ended cs) :
    Text.Utf8.Ended (Text.Utf8.encode cs) := by
  by_cases filled : cs = []
  · rw [filled]
    exact nofun
  · have last : cs.getLast filled = '\n' := ended _ (List.getLast?_eq_some_getLast filled)
    rw [← List.dropLast_concat_getLast filled, last, Text.Utf8.encode_append]
    intro b member
    rw [List.getLast?_append] at member
    exact (Option.some_inj.1 member).symm

section Pieces

variable {pieces : List Bytes} (ended : ∀ piece ∈ pieces, Text.Utf8.Ended piece)
include ended

theorem decodeLossy_flatten : decodeLossy pieces.flatten = (pieces.map decodeLossy).flatten := by
  induction pieces with
  | nil => rfl
  | cons piece rest ih =>
    obtain ⟨first, others⟩ := List.forall_mem_cons.1 ended
    rw [List.flatten_cons, Text.Utf8.decodeLossy_append first, ih others, List.map_cons,
      List.flatten_cons]

variable (padding : Nat)

theorem filter_join_alignedText :
    (String.join (pieces.map (alignedText padding))).toList.filter (· ≠ ' ') =
      (decodeLossy pieces.flatten).filter isVisible := by
  rw [toList_join_map, decodeLossy_flatten ended, List.filter_flatten, List.filter_flatten,
    List.map_map, List.map_map]
  refine congrArg List.flatten (List.map_congr_left fun piece member => ?_)
  rw [Function.comp_apply, Function.comp_apply]
  exact filter_alignedText (ended_decodeLossy (ended piece member))

theorem join_alignedText_of_no_tab (plain : '\t' ∉ decodeLossy pieces.flatten) :
    (String.join (pieces.map (alignedText padding))).toList = decodeLossy pieces.flatten := by
  rw [decodeLossy_flatten ended] at plain ⊢
  rw [toList_join_map]
  refine congrArg List.flatten (List.map_congr_left fun piece member => ?_)
  have untabbed : '\t' ∉ decodeLossy piece := fun tab =>
    plain (List.mem_flatten_of_mem (List.mem_map_of_mem member) tab)
  exact alignedText_of_no_tab (ended_decodeLossy (ended piece member)) untabbed

end Pieces

theorem ended_join_alignedText (padding : Nat) (pieces : List Bytes) :
    Text.Ended (String.join (pieces.map (alignedText padding))).toList := by
  induction pieces with
  | nil => exact nofun
  | cons piece rest ih =>
    rw [List.map_cons, String.join_cons, String.toList_append]
    exact ended_alignedText.append ih

theorem tab_not_mem_join_alignedText (padding : Nat) (pieces : List Bytes) :
    '\t' ∉ (String.join (pieces.map (alignedText padding))).toList := by
  rw [toList_join_map, List.mem_flatten]
  rintro ⟨text, member, tab⟩
  obtain ⟨piece, -, rfl⟩ := List.mem_map.1 member
  exact tab_not_mem_alignedText padding piece tab

theorem orderly_write {text : String} (ended : Text.Ended text.toList) :
    Orderly [.write (bytesOf text), .flush] := by
  refine ⟨nofun, rfl, bounded_of_take fun i _ flushed => ?_⟩
  match i, flushed with
  | 1, _ => exact ended_encode ended

/-- The text that an orderly run delivers has no tab and the line feeds that were written, and apart
    from blanks and tabs the characters that were written. Other flush points and another padding
    change but blanks inside the lines. Aligned again, with whatever padding and flush points, the
    text stays as it is. -/
theorem alignment_moves_blanks (padding : Nat) (steps : List Step) (orderly : Orderly steps) :
    let text := ((fresh padding).run steps).inner.received
    '\t' ∉ text.toList ∧
      text.toList.count '\n' = (written steps).count lineFeed ∧
      text.toList.filter (· ≠ ' ') = (decodeLossy (written steps)).filter isVisible ∧
      (∀ padding' steps', Orderly steps' → written steps' = written steps →
        (lines ((fresh padding').run steps').inner.received.toList).map (List.filter (· ≠ ' ')) =
          (lines text.toList).map (List.filter (· ≠ ' '))) ∧
      Orderly [.write (bytesOf text), .flush] ∧
      ∀ padding' again, Orderly again → written again = bytesOf text →
        ((fresh padding').run again).inner.received = text := by
  intro text
  have visible : ∀ padding' steps', Orderly steps' → written steps' = written steps →
      Text.Ended ((fresh padding').run steps').inner.received.toList ∧
        ((fresh padding').run steps').inner.received.toList.filter (· ≠ ' ') =
          (decodeLossy (written steps)).filter isVisible := by
    intro padding' steps' orderly' same
    obtain ⟨sent, ended, bytes, received⟩ := orderly'.pieces padding'
    rw [received, ← same, bytes]
    exact ⟨ended_join_alignedText padding' sent, filter_join_alignedText ended padding'⟩
  obtain ⟨sent, ended, bytes, received⟩ := orderly.pieces padding
  obtain ⟨textEnded, kept⟩ := visible padding steps orderly rfl
  have plain : '\t' ∉ text.toList := by
    rw [show text = _ from received]
    exact tab_not_mem_join_alignedText padding sent
  refine ⟨plain, ?_, kept, ?_, orderly_write textEnded, ?_⟩
  · -- Neither side drops a line feed.
    have feeds := congrArg (List.count '\n') kept
    rw [List.count_filter rfl, List.count_filter rfl, Text.Utf8.count_decodeLossy] at feeds
    exact feeds
  · intro padding' steps' orderly' same
    obtain ⟨ended', kept'⟩ := visible padding' steps' orderly' same
    rw [Text.map_filter_lines rfl ended', Text.map_filter_lines rfl textEnded, kept', kept]
  · intro padding' again orderly' same
    obtain ⟨sent', ended', bytes', received'⟩ := orderly'.pieces padding'
    have read : decodeLossy sent'.flatten = text.toList := by
      rw [← bytes', same]
      exact Text.Utf8.decodeLossy_encode _
    rw [received', ← String.toList_inj, join_alignedText_of_no_tab ended' padding' (by rwa [read]),
      read]

/-- The bytes of a character are cut short by the end of a line, and by the end of a write. The
    two lines are aligned apart, and together. -/
theorem alignment_moves_blanks_bytes :
    let apart : List Step :=
      [.write [0x61, 0x09, 0xE2], .write [0x82, 0x0A], .flush, .write (bytesOf "cc\td\n"), .flush]
    let together : List Step :=
      [.write [0x61, 0x09, 0xE2, 0x82, 0x0A], .write (bytesOf "cc\td\n"), .flush]
    Orderly apart ∧ Orderly together ∧
      ((fresh 2).run apart).inner.received = "a  \uFFFD\ncc  d\n" ∧
      ((fresh 2).run together).inner.received = "a   \uFFFD\ncc  d\n" ∧
      (lines "a   \uFFFD\ncc  d\n".toList).map (List.filter (· ≠ ' ')) =
        (lines "a  \uFFFD\ncc  d\n".toList).map (List.filter (· ≠ ' ')) ∧
      ((fresh 4).run [.write (bytesOf "a  \uFFFD\ncc  d\n"), .flush]).inner.received =
        "a  \uFFFD\ncc  d\n" := by
  dsimp only
  have apart : Orderly [.write [0x61, 0x09, 0xE2], .write [0x82, 0x0A], .flush,
      .write (bytesOf "cc\td\n"), .flush] :=
    ⟨by decide +kernel, rfl, bounded_of_take (by decide +kernel)⟩
  have together : Orderly [.write [0x61, 0x09, 0xE2, 0x82, 0x0A], .write (bytesOf "cc\td\n"),
      .flush] :=
    ⟨by decide +kernel, rfl, bounded_of_take (by decide +kernel)⟩
  have text : ((fresh 2).run [.write [0x61, 0x09, 0xE2], .write [0x82, 0x0A], .flush,
      .write (bytesOf "cc\td\n"), .flush]).inner.received = "a  \uFFFD\ncc  d\n" := by
    decide +kernel
  have text' : ((fresh 2).run [.write [0x61, 0x09, 0xE2, 0x82, 0x0A], .write (bytesOf "cc\td\n"),
      .flush]).inner.received = "a   \uFFFD\ncc  d\n" := by
    decide +kernel
  obtain ⟨-, -, -, moved, once, again⟩ := alignment_moves_blanks 2 _ apart
  have lines := moved 2 _ together (by decide +kernel)
  rw [text] at lines once again
  rw [text'] at lines
  have settled := again 4 _ once (by simp [Step.written])
  exact ⟨apart, together, text, text', lines, settled⟩

end StatusReport.TabAligner
