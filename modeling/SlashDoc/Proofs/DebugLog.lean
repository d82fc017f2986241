import SlashDoc.Extraction.Document
import SlashDoc.Proofs.BufferSections
import SlashDoc.Proofs.Continuation

/-!
# The log of an extraction

A logged extraction does the same as one that is not logged. Its log has one entry for each maximal
run of comments, which tells the block that the run became or the code because of which it was
dropped, and at the end an entry with the counters. The extraction knows nothing of runs when it
logs: it compares a counter before and after each line.
-/
namespace SlashDoc

variable {settings : Settings}

namespace Extraction

def silent (extraction : Extraction) : Extraction :=
  { extraction with debug := false, events := [] }

theorem silent_feed (settings : Settings) (extraction : Extraction) (line : Text) :
    (extraction.feed settings line).silent = extraction.silent.feed settings line := rfl

theorem silent_finish (settings : Settings) (extraction : Extraction) :
    (extraction.finish settings).silent = extraction.silent.finish settings := rfl

theorem silent_feedAll (settings : Settings) (extraction : Extraction) (lines : List Text) :
    (extraction.feedAll settings lines).silent = extraction.silent.feedAll settings lines := by
  induction lines generalizing extraction with
  | nil => rfl
  | cons line lines ih =>
    rw [feedAll_cons, feedAll_cons, ih, silent_feed]

theorem silent_ofText (settings : Settings) (text : Text) (debug : Bool) :
    (ofText settings text debug).silent = ofText settings text := by
  rw [ofText, silent_finish, silent_feedAll]
  rfl

end Extraction

namespace Snapshot

/-- Closing drops a run if something is pending and does not become a block. -/
theorem Closes.counters {snapshot : Snapshot} {step : Step} (h : snapshot.Closes step) :
    step.snapshot.processedLines = snapshot.processedLines ∧
      step.snapshot.discardedBlocks = snapshot.discardedBlocks +
        if snapshot.hasPending = true ∧ step.block = none then 1 else 0 := by
  cases h with
  | empty hpending => exact ⟨rfl, by simp [hpending]⟩
  | keeps documentLines closing heading lines hpending hclosing hlines => exact ⟨rfl, by simp⟩
  | drops hpending => exact ⟨rfl, by simp [hpending, discard]⟩

theorem step_comment_counters (settings : Settings) (snapshot : Snapshot)
    {line body : Text} (hbody : Comment.body? line = some body) :
    (snapshot.step settings line).snapshot.processedLines = snapshot.processedLines + 1 ∧
      (snapshot.step settings line).snapshot.discardedBlocks = snapshot.discardedBlocks := by
  cases hstatus : snapshot.status with
  | inBlock =>
    obtain ⟨_, _, _, _, hframe⟩ := feed_frame settings snapshot.counted body
    rw [step_comment_inBlock hbody hstatus, hframe]
    exact ⟨rfl, rfl⟩
  | outOfBlock =>
    obtain ⟨_, _, _, _, hframe⟩ := feed_frame settings
      { snapshot.counted with status := .inBlock, blockTail := .empty, blockSize := 0 } body
    rw [step_comment_outOfBlock hbody hstatus, openBlock, hframe]
    exact ⟨rfl, rfl⟩

theorem Balanced.processedLines_step {snapshot : Snapshot} (h : snapshot.Balanced)
    (settings : Settings) (line : Text) :
    (snapshot.step settings line).snapshot.processedLines = snapshot.processedLines + 1 := by
  cases hbody : Comment.body? line with
  | some body => exact (step_comment_counters settings snapshot hbody).1
  | none =>
    cases hstatus : snapshot.status with
    | inBlock =>
      have hcounted : snapshot.counted.Balanced := ⟨h.blockSize, h.signatureCount⟩
      rw [step_code_inBlock hbody hstatus]
      exact (hcounted.closes_close settings line).counters.1
    | outOfBlock =>
      rw [step_code_outOfBlock hbody hstatus]
      rfl

end Snapshot

def Event.entry (event : Event) : Text × Fields :=
  (event.text, event.fields)

namespace Run

def unnumbered (run : Run (Text × ℕ)) : Run Text :=
  ⟨run.bodies, run.next.map Prod.fst⟩

def numberedBody? (item : Text × ℕ) : Option Text :=
  Comment.body? item.1

/-- The runs of a source, each with the line right after it and the number of that line. -/
def numbered (lines : List Text) : List (Run (Text × ℕ)) :=
  all numberedBody? (lines.zipIdx 1)

def entries (settings : Settings) (earlier : List (Run Text)) (run : Run (Text × ℕ)) :
    List (Text × Fields) :=
  match run.unnumbered.block? settings earlier, run.next with
  | some block, _ => [("Block flushed".toList, block.context)]
  | none, some (line, number) =>
    [("Inline comment discarded".toList,
      [("line_number", .integer number), ("line", .text (line.take 50))])]
  | none, none => []

def entriesAfter (settings : Settings) :
    (earlier : List (Run Text)) → (runs : List (Run (Text × ℕ))) → List (Text × Fields)
  | _, [] => []
  | earlier, run :: later =>
    run.entries settings earlier ++ entriesAfter settings (earlier ++ [run.unnumbered]) later

theorem entriesAfter_append (settings : Settings) (earlier : List (Run Text))
    (runs later : List (Run (Text × ℕ))) :
    entriesAfter settings earlier (runs ++ later) =
      entriesAfter settings earlier runs ++
        entriesAfter settings (earlier ++ runs.map unnumbered) later := by
  induction runs generalizing earlier with
  | nil => simp [entriesAfter]
  | cons run runs ih => simp [entriesAfter, ih]

theorem isSome_block? (settings : Settings) (earlier : List (Run Text)) (run : Run Text) :
    (run.block? settings earlier).isSome = run.isKept := by
  unfold block? isKept
  by_cases hblank : Text.isBlankText run.line = true
  · simp [hblank]
  · cases Text.search BoundFunction.start? run.line <;>
      cases Text.search NamedFunction.start? run.line <;> simp [hblank]

theorem entries_of_kept {earlier : List (Run Text)} {run : Run (Text × ℕ)}
    (h : run.unnumbered.isKept = true) :
    ∃ block, run.unnumbered.block? settings earlier = some block ∧
      run.entries settings earlier = [(Event.blockKept block).entry] := by
  rw [← isSome_block? settings earlier] at h
  obtain ⟨block, hblock⟩ := Option.isSome_iff_exists.mp h
  refine ⟨block, hblock, ?_⟩
  rw [entries, hblock]
  rfl

theorem entries_of_dropped {earlier : List (Run Text)} {run : Run (Text × ℕ)}
    (h : run.unnumbered.isKept = false) :
    ∃ line number, run.next = some (line, number) ∧
      run.entries settings earlier = [(Event.commentDiscarded number (line.take 50)).entry] := by
  have hblock : run.unnumbered.block? settings earlier = none := by
    rw [← Option.not_isSome_iff_eq_none, isSome_block?, h]
    simp
  obtain ⟨bodies, next⟩ := run
  cases next with
  | none =>
    -- at the end of a source every run becomes a block
    simp [unnumbered, isKept, line, Text.isBlankText] at h
  | some item =>
    refine ⟨item.1, item.2, rfl, ?_⟩
    rw [entries, hblock]
    rfl

/-- A logged extraction in the middle of a source: the runs behind it are those that its log tells
of, and the next line has the next number. -/
structure Logs (settings : Settings) (behind : List (Run (Text × ℕ))) (opened : List Text)
    (extraction : Extraction) : Prop where
  debug : extraction.debug = true
  follows : Follows settings (behind.map unnumbered) opened extraction.snapshot
  entries : extraction.events.map Event.entry = entriesAfter settings [] behind
  dropped : extraction.snapshot.discardedBlocks = (behind.map unnumbered).countP (!·.isKept)

variable {behind : List (Run (Text × ℕ))} {opened : List Text} {extraction : Extraction}

theorem logs_initial (settings : Settings) : Logs settings [] [] { debug := true } where
  debug := rfl
  follows := follows_initial settings
  entries := rfl
  dropped := rfl

/-- A step that neither keeps nor drops a run is not logged. -/
theorem Logs.record_quiet (h : Logs settings behind opened extraction) {opened' : List Text}
    (line : Text) {step : Step} (hblock : step.block = none)
    (hdropped : step.snapshot.discardedBlocks = extraction.snapshot.discardedBlocks)
    (hfollows : Follows settings (behind.map unnumbered) opened' step.snapshot) :
    Logs settings behind opened' (extraction.record line step) := by
  have hevents : Extraction.eventsOf extraction.snapshot line step = [] := by
    simp [Extraction.eventsOf, hblock, hdropped]
  refine ⟨h.debug, hfollows, ?_, hdropped.trans h.dropped⟩
  simpa [Extraction.record, Extraction.log, hevents] using h.entries

/-- A step that ends a run is logged by what becomes of the run. -/
theorem Logs.record_run (h : Logs settings behind opened extraction) {run : Run (Text × ℕ)}
    {line : Text} {step : Step}
    (hblock : step.block = run.unnumbered.block? settings (behind.map unnumbered))
    (hfollows : Follows settings (behind.map unnumbered ++ [run.unnumbered]) [] step.snapshot)
    (hdropped : step.snapshot.discardedBlocks = extraction.snapshot.discardedBlocks +
      if run.unnumbered.isKept then 0 else 1)
    (hnext : ∀ item, run.next = some item → item = (line, step.snapshot.processedLines)) :
    Logs settings (behind ++ [run]) [] (extraction.record line step) := by
  refine ⟨h.debug, by rwa [List.map_append], ?_, ?_⟩
  · have hevents : (Extraction.eventsOf extraction.snapshot line step).map Event.entry =
        run.entries settings (behind.map unnumbered) := by
      cases hkept : run.unnumbered.isKept with
      | true =>
        obtain ⟨block, hsome, hentries⟩ := entries_of_kept hkept
        rw [hentries, Extraction.eventsOf, hblock, hsome]
        rfl
      | false =>
        -- no block tells of the run, only the counter of dropped runs does
        obtain ⟨code, number, hcode, hentries⟩ := entries_of_dropped hkept
        obtain ⟨rfl, rfl⟩ := Prod.mk.inj (hnext _ hcode)
        have hnone : step.block = none := by
          rw [hblock, ← Option.not_isSome_iff_eq_none, isSome_block?, hkept]
          simp
        rw [hentries]
        simp [Extraction.eventsOf, hnone, hdropped, hkept, Extraction.loggedWidth]
    simpa [Extraction.record, Extraction.log, h.debug, h.entries, entriesAfter_append,
      entriesAfter] using hevents
  · change step.snapshot.discardedBlocks = _
    cases hkept : run.unnumbered.isKept <;>
      simp [hdropped, h.dropped, hkept, List.countP_append]

theorem Follows.discardedBlocks_close {earlier : List (Run Text)} {snapshot : Snapshot}
    (h : Follows settings earlier opened snapshot) (hopened : opened ≠ []) (next : Option Text) :
    (snapshot.close settings (next.getD [])).snapshot.discardedBlocks =
      snapshot.discardedBlocks + if isKept ⟨opened, next⟩ then 0 else 1 := by
  have hcounters := (h.balanced.closes_close settings (next.getD [])).counters.2
  have hkept := isSome_block? settings earlier ⟨opened, next⟩
  rw [hcounters, (h.close hopened next).1, ← hkept]
  cases block? settings earlier ⟨opened, next⟩ <;> simp [h.hasPending_iff.mpr hopened]

theorem Follows.discardedBlocks_close_nil {earlier : List (Run Text)} {snapshot : Snapshot}
    (h : Follows settings earlier [] snapshot) (line : Text) :
    (snapshot.close settings line).snapshot.discardedBlocks = snapshot.discardedBlocks := by
  have hpending : ¬snapshot.hasPending = true := fun hp => h.hasPending_iff.mp hp rfl
  rw [(h.balanced.closes_close settings line).counters.2, if_neg fun hboth => hpending hboth.1]
  rfl

theorem Logs.feed_comment (h : Logs settings behind opened extraction) {line body : Text}
    (hbody : Comment.body? line = some body) :
    Logs settings behind (opened ++ [body]) (extraction.feed settings line) := by
  obtain ⟨hblock, hfollows⟩ := h.follows.step_comment hbody
  exact h.record_quiet line hblock (Snapshot.step_comment_counters settings _ hbody).2 hfollows

/-- A line of code ends the run before it, if there is one, and is logged with its number. -/
theorem Logs.feed_code (h : Logs settings behind opened extraction) {line : Text}
    (hbody : Comment.body? line = none) :
    Logs settings (behind ++ if opened = [] then []
      else [⟨opened, some (line, extraction.snapshot.processedLines + 1)⟩]) []
      (extraction.feed settings line) := by
  by_cases hopened : opened = []
  · subst hopened
    obtain ⟨hblock, hfollows⟩ := h.follows.step_code_nil hbody
    rw [if_pos rfl, List.append_nil]
    refine h.record_quiet line hblock ?_ hfollows
    cases hstatus : extraction.snapshot.status with
    | inBlock =>
      rw [Snapshot.step_code_inBlock hbody hstatus]
      exact h.follows.counted.discardedBlocks_close_nil line
    | outOfBlock =>
      rw [Snapshot.step_code_outOfBlock hbody hstatus]
      rfl
  · have hstep : extraction.snapshot.step settings line =
        extraction.snapshot.counted.close settings line :=
      Snapshot.step_code_inBlock hbody (h.follows.isOpen hopened)
    obtain ⟨hblock, hfollows⟩ := h.follows.step_code hopened hbody
    rw [if_neg hopened]
    refine h.record_run hblock hfollows ?_ ?_
    · rw [hstep]
      exact h.follows.counted.discardedBlocks_close hopened (some line)
    · rintro item ⟨⟩
      rw [hstep, (h.follows.counted.balanced.closes_close settings line).counters.1]
      rfl

theorem Logs.record_finish (h : Logs settings behind opened extraction) :
    Logs settings (behind ++ if opened = [] then [] else [⟨opened, none⟩]) []
      (extraction.record [] (extraction.snapshot.finish settings)) := by
  by_cases hopened : opened = []
  · subst hopened
    rw [if_pos rfl, List.append_nil]
    cases hstatus : extraction.snapshot.status with
    | inBlock =>
      obtain ⟨hblock, hfollows⟩ := h.follows.close_nil []
      rw [Snapshot.finish_inBlock hstatus]
      exact h.record_quiet [] hblock (h.follows.discardedBlocks_close_nil []) hfollows
    | outOfBlock =>
      rw [Snapshot.finish_outOfBlock hstatus]
      exact h.record_quiet [] rfl rfl h.follows
  · obtain ⟨hblock, hfollows⟩ := h.follows.close hopened none
    rw [if_neg hopened, Snapshot.finish_inBlock (h.follows.isOpen hopened)]
    exact h.record_run hblock hfollows (h.follows.discardedBlocks_close hopened none) nofun

/-- However a source goes on, its runs are logged as they end. -/
theorem Logs.feedAll (h : Logs settings behind opened extraction) (lines : List Text) :
    Logs settings (behind ++ allAfter numberedBody? opened
      (lines.zipIdx (extraction.snapshot.processedLines + 1))) []
      ((extraction.feedAll settings lines).record []
        ((extraction.feedAll settings lines).snapshot.finish settings)) := by
  induction lines generalizing behind opened extraction with
  | nil => simpa [allAfter_nil] using h.record_finish
  | cons line lines ih =>
    -- the numbers of the lines come from the counter, which the step before has moved on
    have hnumber : (extraction.feed settings line).snapshot.processedLines =
        extraction.snapshot.processedLines + 1 :=
      h.follows.balanced.processedLines_step settings line
    cases hbody : Comment.body? line with
    | some body =>
      have hitem : numberedBody? (line, extraction.snapshot.processedLines + 1) = some body := hbody
      have hrest := ih (h.feed_comment hbody)
      rw [hnumber] at hrest
      rwa [List.zipIdx_cons, allAfter_cons_of_some hitem]
    | none =>
      have hitem : numberedBody? (line, extraction.snapshot.processedLines + 1) = none := hbody
      have hrest := ih (h.feed_code hbody)
      rw [hnumber, List.append_assoc] at hrest
      rwa [List.zipIdx_cons, allAfter_cons_of_none hitem]

/-- There is one entry for each run, and its text tells whether the run was kept. -/
theorem texts_entriesAfter (settings : Settings) (earlier : List (Run Text))
    (runs : List (Run (Text × ℕ))) :
    (entriesAfter settings earlier runs).map Prod.fst = (runs.map unnumbered).map fun run =>
      if run.isKept then "Block flushed".toList else "Inline comment discarded".toList := by
  induction runs generalizing earlier with
  | nil => rfl
  | cons run runs ih =>
    rw [entriesAfter, List.map_append, ih, List.map_cons, List.map_cons]
    cases hkept : run.unnumbered.isKept with
    | true =>
      obtain ⟨block, -, hentries⟩ : ∃ block, _ ∧ run.entries settings earlier = _ :=
        entries_of_kept hkept
      rw [hentries]
      rfl
    | false =>
      obtain ⟨line, number, -, hentries⟩ :
          ∃ line number, _ ∧ run.entries settings earlier = _ := entries_of_dropped hkept
      rw [hentries]
      rfl

theorem length_entriesAfter (settings : Settings) (earlier : List (Run Text))
    (runs : List (Run (Text × ℕ))) : (entriesAfter settings earlier runs).length = runs.length := by
  rw [← List.length_map Prod.fst, texts_entriesAfter, List.length_map, List.length_map]

/-- Counting one of two texts that stand for the answers to a question counts the answers. -/
theorem count_map_ite {α : Type} (p : α → Bool) {yes no : Text} (h : yes ≠ no) (items : List α) :
    (items.map fun item => if p item then yes else no).count yes = items.countP p ∧
      (items.map fun item => if p item then yes else no).count no = items.countP (!p ·) := by
  induction items with
  | nil => exact ⟨rfl, rfl⟩
  | cons item items ih =>
    obtain ⟨hyes, hno⟩ := ih
    cases hitem : p item <;> simp [hitem, hyes, hno, h, h.symm]

theorem count_texts_entriesAfter (settings : Settings) (earlier : List (Run Text))
    (runs : List (Run (Text × ℕ))) :
    ((entriesAfter settings earlier runs).map Prod.fst).count "Block flushed".toList =
        (runs.map unnumbered).countP isKept ∧
      ((entriesAfter settings earlier runs).map Prod.fst).count "Inline comment discarded".toList =
        (runs.map unnumbered).countP (!·.isKept) := by
  rw [texts_entriesAfter]
  exact count_map_ite isKept (by decide) _

end Run

/-- At the end of a source only the closing entry is missing in the log. -/
theorem Extraction.exists_logs_ofText (settings : Settings) (text : Text) :
    ∃ closed, Run.Logs settings (Run.numbered (Line.split text)) [] closed ∧
      ofText settings text true = closed.log [.extractionFinished closed.snapshot] := by
  have h := (Run.logs_initial settings).feedAll (Line.split text)
  rw [List.nil_append, Run.allAfter, if_pos rfl] at h
  exact ⟨_, h, rfl⟩

namespace Stream

def silent (stream : Stream) : Stream :=
  { stream with extraction := stream.extraction.silent }

theorem silent_feed (settings : Settings) (stream : Stream) (chunk : Text) :
    (stream.feed settings chunk).silent = stream.silent.feed settings chunk := by
  have hextraction := Extraction.silent_feedAll settings stream.extraction
    (stream.buffer.feed chunk).2
  simp only [feed, silent, advance, ← hextraction]
  rfl

theorem silent_feedAll (settings : Settings) (stream : Stream) (chunks : List Text) :
    (stream.feedAll settings chunks).silent = stream.silent.feedAll settings chunks := by
  induction chunks generalizing stream with
  | nil => rfl
  | cons chunk chunks ih =>
    have hrest := ih (stream.feed settings chunk)
    rwa [silent_feed] at hrest

theorem silent_finish (settings : Settings) (stream : Stream) :
    (stream.finish settings).silent = stream.silent.finish settings := by
  have hextraction := Extraction.silent_feedAll settings stream.extraction stream.buffer.close.2
  simp only [finish, silent, advance, ← hextraction, ← Extraction.silent_finish]
  rfl

theorem silent_ofChunks (settings : Settings) (chunks : List Text) (debug : Bool) :
    (ofChunks settings chunks debug).silent = ofChunks settings chunks := by
  rw [ofChunks, silent_finish, silent_feedAll]
  rfl

/-- A stream feeds its extraction with the lines that its buffer hands out. -/
theorem extraction_feedAll (settings : Settings) (stream : Stream) (chunks : List Text) :
    (stream.feedAll settings chunks).buffer =
        (stream.buffer.run (chunks.map .chunk)).1 ∧
      (stream.feedAll settings chunks).extraction = stream.extraction.feedAll settings
        (stream.buffer.run (chunks.map .chunk)).2.flatten := by
  induction chunks generalizing stream with
  | nil => exact ⟨rfl, rfl⟩
  | cons chunk chunks ih =>
    obtain ⟨hbuffer, hextraction⟩ := ih (stream.feed settings chunk)
    refine ⟨hbuffer, hextraction.trans ?_⟩
    rw [List.map_cons, Line.Buffer.run, List.flatten_cons, Extraction.feedAll_append]
    rfl

/-- The chunks leave no trace in the extraction, its log included. -/
theorem extraction_ofChunks (settings : Settings) (chunks : List Text) (debug : Bool) :
    (ofChunks settings chunks debug).extraction =
      Extraction.ofText settings chunks.flatten debug := by
  obtain ⟨hbuffer, hextraction⟩ :=
    extraction_feedAll settings { extraction := { debug } } chunks
  rw [Extraction.ofText, ← Line.Buffer.run_section, Line.Buffer.run_append, List.flatten_append,
    Extraction.feedAll_append, ← hbuffer, ← hextraction]
  simp [ofChunks, finish, advance, Line.Buffer.run, Line.Buffer.take]

end Stream

/-- Logging changes neither the blocks nor the document. The log of a source has one entry for each
of its runs of comments, in order, and then an entry with the number of lines and of the two kinds
of entries before it. A stream logs what the whole text does, however it is divided into chunks. -/
theorem log_tells_runs (settings : Settings) (text : Text) :
    let runs := Run.numbered (Line.split text)
    let entries := Run.entriesAfter settings [] runs
    (extractBlocks settings text true = extractBlocks settings text ∧
      extractDocument settings text true = extractDocument settings text ∧
      (Extraction.ofText settings text).events = []) ∧
    (∃ counters : Fields,
      (Extraction.ofText settings text true).events.map Event.entry =
        entries ++ [("Extraction finished".toList, counters)] ∧
      entries.length = runs.length ∧
      counters.lookup "processed_lines" = some (.integer (Line.split text).length) ∧
      counters.lookup "flushed_blocks" =
        some (.integer ((entries.map Prod.fst).count "Block flushed".toList)) ∧
      counters.lookup "discarded_blocks" =
        some (.integer ((entries.map Prod.fst).count "Inline comment discarded".toList))) ∧
    ∀ chunks, (Stream.ofChunks settings chunks true).extraction.events =
        (Extraction.ofText settings chunks.flatten true).events ∧
      (Stream.ofChunks settings chunks true).blocks = (Stream.ofChunks settings chunks).blocks ∧
      (Stream.ofChunks settings chunks true).document =
        (Stream.ofChunks settings chunks).document := by
  intro runs entries
  have hsilent := Extraction.silent_ofText settings text
  refine ⟨⟨?_, ?_, ?_⟩, ?_, fun chunks => ⟨?_, ?_, ?_⟩⟩
  · rw [extractBlocks, extractBlocks, ← hsilent true]
    rfl
  · rw [extractDocument, extractDocument, ← hsilent true]
    rfl
  · exact congrArg Extraction.events (hsilent false).symm
  · obtain ⟨closed, hlogs, hclosed⟩ := Extraction.exists_logs_ofText settings text
    obtain ⟨hkept, hdropped⟩ := Run.count_texts_entriesAfter settings [] runs
    have hlines : closed.snapshot.processedLines = (Line.split text).length := by
      have hsnapshot := congrArg Extraction.snapshot (hsilent true)
      rw [hclosed] at hsnapshot
      exact (congrArg Snapshot.processedLines hsnapshot).trans
        (Extraction.processedLines_ofLines settings (Line.split text))
    refine ⟨closed.snapshot.context, ?_, Run.length_entriesAfter _ _ _, ?_, ?_, ?_⟩
    · rw [hclosed, Extraction.log, if_pos hlogs.debug, List.map_append, hlogs.entries]
      rfl
    · rw [← hlines]
      rfl
    · rw [hkept, ← hlogs.follows.kept]
      rfl
    · rw [hdropped, ← hlogs.dropped]
      rfl
  · rw [Stream.extraction_ofChunks]
  · rw [← Stream.silent_ofChunks settings chunks true]
    rfl
  · rw [← Stream.silent_ofChunks settings chunks true]
    rfl

end SlashDoc
