import SlashDoc.Proofs.DocumentLines
import SlashDoc.Proofs.SnapshotCounters

/-!
# What an extraction goes on with

Lines that have been taken in act on later blocks only through the pending content, the nesting
level and the number of kept blocks. Two extractions that agree on these go on in the same way, even
if one of them is inside a run and the other outside, as long as nothing is pending. This is not a
statement about events: a logged line number is counted from the start of the source.
-/
namespace SlashDoc

def Block.shift (count : ℕ) (block : Block) : Block :=
  { block with index := block.index + count }

theorem Block.map_shift_zero (blocks : List Block) : blocks.map (Block.shift 0) = blocks :=
  List.map_id blocks

namespace Snapshot

def withPast (snapshot : Snapshot) (documentLines processedLines kept dropped : ℕ) : Snapshot :=
  { snapshot with
    documentLines
    processedLines
    keptBlocks := snapshot.keptBlocks + kept
    discardedBlocks := snapshot.discardedBlocks + dropped }

section Past

variable (settings : Settings) (snapshot : Snapshot) (documentLines processedLines kept dropped : ℕ)

theorem flushSignatures_withPast :
    (snapshot.withPast documentLines processedLines kept dropped).flushSignatures settings =
      (snapshot.flushSignatures settings).withPast documentLines processedLines kept dropped := by
  by_cases hcount : snapshot.signatureCount = 0
  · simp [flushSignatures, withPast, hcount]
  · simp [flushSignatures, withPast, hcount, addLine, signatures]

theorem feed_withPast (body : Text) :
    (snapshot.withPast documentLines processedLines kept dropped).feed settings body =
      (snapshot.feed settings body).withPast documentLines processedLines kept dropped := by
  unfold feed
  split
  · rfl
  · rw [flushSignatures_withPast]
    rfl
  · rw [flushSignatures_withPast]
    rfl
  · rw [flushSignatures_withPast]
    rfl

end Past

end Snapshot

/-- A step that gives the block of another one with a higher number, and leaves the same content
behind a longer past. The lines counted so far do not matter. -/
structure Step.Behind (kept dropped : ℕ) (first second : Step) : Prop where
  block : first.block = second.block.map (Block.shift kept)
  snapshot : first.snapshot = second.snapshot.withPast first.snapshot.documentLines
    first.snapshot.processedLines kept dropped

namespace Snapshot

section Past

variable (settings : Settings) (snapshot : Snapshot) (documentLines processedLines kept dropped : ℕ)

theorem commit_withPast (closing : Closing) (heading : Option Text) :
    Step.Behind kept dropped
      ((snapshot.withPast documentLines processedLines kept dropped).commit settings closing
        heading)
      (snapshot.commit settings closing heading) := by
  unfold commit
  rw [flushSignatures_withPast]
  refine ⟨rfl, ?_⟩
  simp only [withPast, Nat.add_right_comm]

theorem close_withPast (line : Text) :
    Step.Behind kept dropped
      ((snapshot.withPast documentLines processedLines kept dropped).close settings line)
      (snapshot.close settings line) := by
  have hpending : (snapshot.withPast documentLines processedLines kept dropped).hasPending =
    snapshot.hasPending := rfl
  unfold close
  rw [hpending]
  split
  · split
    · exact commit_withPast settings snapshot _ _ _ _ _ _
    · exact commit_withPast settings snapshot _ _ _ _ _ _
    · exact commit_withPast settings snapshot _ _ _ _ _ _
    · refine ⟨rfl, ?_⟩
      simp only [discard, withPast, Nat.add_right_comm]
  · exact ⟨rfl, rfl⟩

end Past

section Idle

variable {settings : Settings} {snapshot : Snapshot} {line body : Text}

/-- Opening a run with an empty block is the same as going on with it. -/
theorem step_comment (hbody : Comment.body? line = some body)
    (h : snapshot.status = .inBlock ∨ (snapshot.blockTail = .empty ∧ snapshot.blockSize = 0)) :
    snapshot.step settings line =
      { snapshot := ({ snapshot.counted with status := .inBlock } : Snapshot).feed settings
          body } := by
  cases hstatus : snapshot.status with
  | inBlock =>
    rw [step_comment_inBlock hbody hstatus, ← hstatus]
    rfl
  | outOfBlock =>
    obtain ⟨htail, hsize⟩ : snapshot.blockTail = .empty ∧ snapshot.blockSize = 0 := by
      simpa [hstatus] using h
    rw [step_comment_outOfBlock hbody hstatus, openBlock, ← htail, ← hsize]
    rfl

/-- With nothing pending a line of code leads out of the run and does nothing else. -/
theorem step_code_of_not_hasPending (hpending : snapshot.hasPending = false)
    (hbody : Comment.body? line = none) :
    snapshot.step settings line =
      { snapshot := { snapshot.counted with status := .outOfBlock } } := by
  cases hstatus : snapshot.status with
  | inBlock =>
    have hcounted : snapshot.counted.hasPending = false := hpending
    rw [step_code_inBlock hbody hstatus, close, hcounted]
    rfl
  | outOfBlock =>
    rw [step_code_outOfBlock hbody hstatus, ← hstatus]
    rfl

theorem finish_of_not_hasPending (hpending : snapshot.hasPending = false) :
    snapshot.finish settings = { snapshot := { snapshot with status := .outOfBlock } } := by
  cases hstatus : snapshot.status with
  | inBlock =>
    rw [finish_inBlock hstatus, close, hpending]
    rfl
  | outOfBlock => rw [finish_outOfBlock hstatus, ← hstatus]

theorem close_status (settings : Settings) (snapshot : Snapshot) (line : Text) :
    (snapshot.close settings line).snapshot.status = .outOfBlock := by
  unfold close
  split
  · split <;> rfl
  · rfl

theorem finish_status (settings : Settings) (snapshot : Snapshot) :
    (snapshot.finish settings).snapshot.status = .outOfBlock := by
  apply finish_cases (motive := fun step => step.snapshot.status = .outOfBlock)
  case closes => exact fun _ => close_status settings snapshot []
  case skips => exact fun hstatus => hstatus

theorem Balanced.not_hasPending_close (h : snapshot.Balanced) (settings : Settings) (line : Text) :
    (snapshot.close settings line).snapshot.hasPending = false := by
  generalize hstep : snapshot.close settings line = step
  have hcloses : snapshot.Closes step := hstep ▸ h.closes_close settings line
  cases hcloses with
  | empty hpending => exact hpending
  | keeps => rfl
  | drops => rfl

end Idle

/-- Two snapshots that go on in the same way. The first has kept and dropped some more blocks. One
of them may be inside a run and the other outside, but then nothing is pending. -/
structure Ahead (kept dropped : ℕ) (first second : Snapshot) : Prop where
  balanced : second.Balanced
  content : first = { second.withPast first.documentLines first.processedLines kept dropped with
    status := first.status }
  status : (first.status = .inBlock ∧ second.status = .inBlock) ∨ second.hasPending = false

variable {kept dropped : ℕ} {first second : Snapshot}

theorem Ahead.exists_eq (h : Ahead kept dropped first second) :
    ∃ status documentLines processedLines,
      first = { second.withPast documentLines processedLines kept dropped with status } ∧
        ((status = .inBlock ∧ second.status = .inBlock) ∨ second.hasPending = false) :=
  ⟨first.status, first.documentLines, first.processedLines, h.content, h.status⟩

theorem Ahead.depth (h : Ahead kept dropped first second) : first.depth = second.depth := by
  rw [h.content]
  rfl

theorem ahead_withPast (hbalanced : second.Balanced)
    (hstatus : second.status = .inBlock ∨ second.hasPending = false)
    (documentLines processedLines kept dropped : ℕ) :
    Ahead kept dropped (second.withPast documentLines processedLines kept dropped) second :=
  ⟨hbalanced, rfl, hstatus.imp_left fun hin => ⟨hin, hin⟩⟩

/-- Two runs that close at the same line. -/
theorem Balanced.ahead_close {snapshot : Snapshot} (hbalanced : snapshot.Balanced)
    (settings : Settings) (documentLines processedLines kept dropped : ℕ) (line : Text) :
    let closed := (snapshot.withPast documentLines processedLines kept dropped).close settings line
    closed.block = (snapshot.close settings line).block.map (Block.shift kept) ∧
      Ahead kept dropped closed.snapshot (snapshot.close settings line).snapshot := by
  intro closed
  have hclose : Step.Behind kept dropped closed (snapshot.close settings line) :=
    close_withPast settings snapshot documentLines processedLines kept dropped line
  refine ⟨hclose.block, ?_⟩
  rw [hclose.snapshot]
  exact ahead_withPast (hbalanced.close settings line)
    (Or.inr (hbalanced.not_hasPending_close settings line)) _ _ _ _

theorem Ahead.step (h : Ahead kept dropped first second) (settings : Settings) (line : Text) :
    (first.step settings line).block =
        (second.step settings line).block.map (Block.shift kept) ∧
      Ahead kept dropped (first.step settings line).snapshot
        (second.step settings line).snapshot := by
  have hbalanced := h.balanced
  have hcounted : second.counted.Balanced := ⟨hbalanced.blockSize, hbalanced.signatureCount⟩
  obtain ⟨status, documentLines, processedLines, rfl, hstatus⟩ := h.exists_eq
  cases hbody : Comment.body? line with
  | some body =>
    -- after a comment both are inside a run, so a difference in status is gone
    have hopen : second.status = .inBlock ∨ (second.blockTail = .empty ∧ second.blockSize = 0) :=
      hstatus.imp And.right fun hpending => (hbalanced.eq_empty_of_not_hasPending hpending).1
    have hopen' : status = .inBlock ∨ (second.blockTail = .empty ∧ second.blockSize = 0) :=
      hstatus.imp And.left fun hpending => (hbalanced.eq_empty_of_not_hasPending hpending).1
    have hfed : ({ second.counted with status := .inBlock } : Snapshot).Balanced :=
      ⟨hcounted.blockSize, hcounted.signatureCount⟩
    have hfirst : ({ ({ second.withPast documentLines processedLines kept dropped with
        status } : Snapshot).counted with status := .inBlock } : Snapshot) =
        ({ second.counted with status := .inBlock } : Snapshot).withPast documentLines
          (processedLines + 1) kept dropped := rfl
    rw [step_comment hbody hopen, step_comment hbody hopen', hfirst, feed_withPast]
    refine ⟨rfl, ahead_withPast (hfed.feed settings body) (Or.inl ?_) _ _ _ _⟩
    obtain ⟨_, _, _, _, hframe⟩ :=
      feed_frame settings { second.counted with status := .inBlock } body
    rw [hframe]
  | none =>
    -- with something pending both close; otherwise neither gives a block, wherever it stands
    rcases hstatus with ⟨rfl, hsecond⟩ | hpending
    · have hfirst : ({ second.withPast documentLines processedLines kept dropped with
          status := .inBlock } : Snapshot).counted =
          second.counted.withPast documentLines (processedLines + 1) kept dropped := by
        rw [← hsecond]
        rfl
      rw [step_code_inBlock hbody hsecond, step_code_inBlock hbody rfl, hfirst]
      exact hcounted.ahead_close settings _ _ _ _ line
    · have hfirst : ({ second.withPast documentLines processedLines kept dropped with
          status } : Snapshot).hasPending = false := hpending
      rw [step_code_of_not_hasPending hpending hbody, step_code_of_not_hasPending hfirst hbody]
      exact ⟨rfl, ⟨⟨hbalanced.blockSize, hbalanced.signatureCount⟩, rfl, Or.inr hpending⟩⟩

/-- A line of code that comes while nothing is pending does not change how a snapshot goes on. -/
theorem Ahead.skip (h : Ahead kept dropped first second) (hpending : second.hasPending = false)
    (settings : Settings) {line : Text} (hbody : Comment.body? line = none) :
    (first.step settings line).block = none ∧
      Ahead kept dropped (first.step settings line).snapshot second := by
  have hbalanced := h.balanced
  obtain ⟨status, documentLines, processedLines, rfl, -⟩ := h.exists_eq
  have hfirst : ({ second.withPast documentLines processedLines kept dropped with
      status } : Snapshot).hasPending = false := hpending
  rw [step_code_of_not_hasPending hfirst hbody]
  exact ⟨rfl, ⟨hbalanced, rfl, Or.inr hpending⟩⟩

theorem Ahead.finish (h : Ahead kept dropped first second) (settings : Settings) :
    (first.finish settings).block = (second.finish settings).block.map (Block.shift kept) ∧
      Ahead kept dropped (first.finish settings).snapshot (second.finish settings).snapshot := by
  have hbalanced := h.balanced
  obtain ⟨status, documentLines, processedLines, rfl, hstatus⟩ := h.exists_eq
  rcases hstatus with ⟨rfl, hsecond⟩ | hpending
  · have hfirst : ({ second.withPast documentLines processedLines kept dropped with
        status := .inBlock } : Snapshot) =
        second.withPast documentLines processedLines kept dropped := by
      rw [← hsecond]
      rfl
    rw [finish_inBlock hsecond, finish_inBlock rfl, hfirst]
    exact hbalanced.ahead_close settings _ _ _ _ []
  · have hfirst : ({ second.withPast documentLines processedLines kept dropped with
        status } : Snapshot).hasPending = false := hpending
    rw [finish_of_not_hasPending hpending, finish_of_not_hasPending hfirst]
    exact ⟨rfl, ⟨⟨hbalanced.blockSize, hbalanced.signatureCount⟩, rfl, Or.inr hpending⟩⟩

end Snapshot

namespace Extraction

structure Ahead (earlier : List Block) (dropped : ℕ) (first second : Extraction) : Prop where
  snapshot : first.snapshot.Ahead earlier.length dropped second.snapshot
  blocks : first.blocks = earlier ++ second.blocks.map (Block.shift earlier.length)

variable {earlier : List Block} {dropped : ℕ} {first second : Extraction}

theorem Ahead.blocks_eq (h : Ahead [] dropped first second) : first.blocks = second.blocks := by
  rw [h.blocks, List.nil_append, List.length_nil, Block.map_shift_zero]

theorem Ahead.feed (h : Ahead earlier dropped first second) (settings : Settings) (line : Text) :
    Ahead earlier dropped (first.feed settings line) (second.feed settings line) := by
  obtain ⟨hblock, hsnapshot⟩ := h.snapshot.step settings line
  refine ⟨hsnapshot, ?_⟩
  rw [feed_blocks, feed_blocks, h.blocks, hblock, Option.toList_map, List.map_append,
    List.append_assoc]

theorem Ahead.finish (h : Ahead earlier dropped first second) (settings : Settings) :
    Ahead earlier dropped (first.finish settings) (second.finish settings) := by
  obtain ⟨hblock, hsnapshot⟩ := h.snapshot.finish settings
  refine ⟨hsnapshot, ?_⟩
  rw [finish_blocks, finish_blocks, h.blocks, hblock, Option.toList_map, List.map_append,
    List.append_assoc]

theorem Ahead.feedAll (h : Ahead earlier dropped first second) (settings : Settings)
    (lines : List Text) :
    Ahead earlier dropped (first.feedAll settings lines) (second.feedAll settings lines) := by
  induction lines generalizing first second with
  | nil => exact h
  | cons line lines ih => exact ih (h.feed settings line)

theorem Ahead.skip (h : Ahead earlier dropped first second)
    (hpending : second.snapshot.hasPending = false) (settings : Settings) {code : List Text}
    (hcode : ∀ line ∈ code, Comment.body? line = none) :
    Ahead earlier dropped (first.feedAll settings code) second := by
  induction code generalizing first with
  | nil => exact h
  | cons line code ih =>
    obtain ⟨hblock, hsnapshot⟩ := h.snapshot.skip hpending settings (hcode line List.mem_cons_self)
    have hnext : Ahead earlier dropped (first.feed settings line) second := by
      refine ⟨hsnapshot, ?_⟩
      rw [feed_blocks, hblock, h.blocks]
      simp
    exact ih hnext fun other hother => hcode other (List.mem_cons_of_mem line hother)

/-- With nothing pending an extraction goes on like a new one at the same nesting level. -/
theorem ahead_of_not_hasPending {extraction : Extraction}
    (hbalanced : extraction.snapshot.Balanced)
    (hpending : extraction.snapshot.hasPending = false)
    (hkept : extraction.snapshot.keptBlocks = extraction.blocks.length) :
    Ahead extraction.blocks extraction.snapshot.discardedBlocks extraction
      { snapshot := { depth := extraction.snapshot.depth } } := by
  obtain ⟨⟨hblock, hsize⟩, hsignatures, hcount⟩ := hbalanced.eq_empty_of_not_hasPending hpending
  refine ⟨⟨⟨rfl, rfl⟩, ?_, Or.inr rfl⟩, by simp⟩
  rw [← hkept]
  generalize extraction.snapshot = snapshot at hblock hsize hsignatures hcount
  cases snapshot
  subst hblock hsize hsignatures hcount
  simp only [Snapshot.withPast, Nat.zero_add]

def ofLines (settings : Settings) (lines : List Text) : Extraction :=
  (feedAll settings {} lines).finish settings

variable (settings : Settings) (lines : List Text)

theorem feedAll_eq_after : feedAll settings {} lines = after (lines.map (Call.line settings)) := by
  rw [after, List.foldl_map]
  rfl

theorem ofLines_eq_after :
    ofLines settings lines = after (lines.map (Call.line settings) ++ [.finish settings]) := by
  rw [ofLines, feedAll_eq_after, after, after, List.foldl_append]
  rfl

theorem sound_after_calls (calls : List Call) :
    Sound calls ⟨(after calls).snapshot, (after calls).blocks⟩ := by
  obtain ⟨hsnapshot, hblocks⟩ := after_eq_session calls
  rw [hsnapshot, hblocks]
  exact sound_after calls

theorem sound_feedAll : Sound (lines.map (Call.line settings))
    ⟨(feedAll settings {} lines).snapshot, (feedAll settings {} lines).blocks⟩ := by
  rw [feedAll_eq_after]
  exact sound_after_calls _

theorem sound_ofLines : Sound (lines.map (Call.line settings) ++ [.finish settings])
    ⟨(ofLines settings lines).snapshot, (ofLines settings lines).blocks⟩ := by
  rw [ofLines_eq_after]
  exact sound_after_calls _

theorem status_ofLines : (ofLines settings lines).snapshot.status = .outOfBlock :=
  Snapshot.finish_status settings _

theorem processedLines_ofLines :
    (ofLines settings lines).snapshot.processedLines = lines.length := by
  have hprocessed := (sound_ofLines settings lines).processed
  rw [List.countP_append, List.countP_map] at hprocessed
  simpa [Function.comp_def, Call.isLine] using hprocessed

theorem documentLines_ofLines : (ofLines settings lines).snapshot.documentLines =
    (Block.document (ofLines settings lines).blocks).length := by
  rw [ofLines_eq_after]
  obtain ⟨hsnapshot, hblocks⟩ :=
    after_eq_session (lines.map (Call.line settings) ++ [.finish settings])
  rw [hsnapshot, hblocks]
  exact documentLines_after _

end Extraction

end SlashDoc
