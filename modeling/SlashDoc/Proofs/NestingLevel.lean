import SlashDoc.Proofs.ExtractionRun
import SlashDoc.Proofs.BlockLayout

/-!
# Where the nesting level is seen

The nesting level of a snapshot is written into the headings of functions and nowhere else. Two
extractions that start at different levels give the same blocks as long as none of these has a
heading.
-/
namespace SlashDoc

variable {settings : Settings}

namespace Snapshot

section Level

variable (settings : Settings) (snapshot : Snapshot) (depth : ℕ)

def withDepth : Snapshot := { snapshot with depth }

theorem flushSignatures_withDepth :
    (snapshot.withDepth depth).flushSignatures settings =
      (snapshot.flushSignatures settings).withDepth depth := by
  by_cases hcount : snapshot.signatureCount = 0
  · simp [flushSignatures, withDepth, hcount]
  · simp [flushSignatures, withDepth, hcount, addLine, signatures]

theorem feed_withDepth (body : Text) :
    ∃ depth', (snapshot.withDepth depth).feed settings body =
      (snapshot.feed settings body).withDepth depth' := by
  unfold feed
  split
  · exact ⟨depth, rfl⟩
  · rw [flushSignatures_withDepth]
    exact ⟨depth, rfl⟩
  · rename_i level _
    rw [flushSignatures_withDepth]
    exact ⟨level, rfl⟩
  · rw [flushSignatures_withDepth]
    exact ⟨depth, rfl⟩

end Level

end Snapshot

def Step.LevelApart (first second : Step) : Prop :=
  ∃ depth, first = { snapshot := second.snapshot.withDepth depth, block := second.block }

namespace Snapshot

section Level

variable (settings : Settings) (snapshot : Snapshot) (depth : ℕ)

theorem commit_withDepth (closing : Closing) (heading : Option Text) :
    ((snapshot.withDepth depth).commit settings closing heading).LevelApart
      (snapshot.commit settings closing heading) := by
  unfold commit
  rw [flushSignatures_withDepth]
  exact ⟨depth, rfl⟩

/-- A block without a heading does not show the nesting level. -/
theorem close_withDepth (line : Text)
    (h : ∀ block ∈ (snapshot.close settings line).block, block.heading = none) :
    ((snapshot.withDepth depth).close settings line).LevelApart (snapshot.close settings line) := by
  by_cases hpending : snapshot.hasPending = true
  · have hdeep : (snapshot.withDepth depth).hasPending = true := hpending
    cases hline : CodeLine.classify line with
    | blank =>
      simp only [close, hpending, hdeep, hline, if_true]
      exact commit_withDepth settings snapshot depth _ _
    | boundFunction name params => simp [close, hpending, hline, commit] at h
    | namedFunction name params => simp [close, hpending, hline, commit] at h
    | other =>
      simp only [close, hpending, hdeep, hline, if_true]
      exact ⟨depth, rfl⟩
  · have hdeep : ¬(snapshot.withDepth depth).hasPending = true := hpending
    rw [close, close, if_neg hpending, if_neg hdeep]
    exact ⟨depth, rfl⟩

theorem step_withDepth (line : Text)
    (h : ∀ block ∈ (snapshot.step settings line).block, block.heading = none) :
    ((snapshot.withDepth depth).step settings line).LevelApart (snapshot.step settings line) := by
  have hstatus : (snapshot.withDepth depth).status = snapshot.status := rfl
  revert h
  apply step_cases (motive := fun step => (∀ block ∈ step.block, block.heading = none) →
    ((snapshot.withDepth depth).step settings line).LevelApart step)
  case feeds =>
    intro body hbody hin _
    obtain ⟨level, hfeed⟩ := feed_withDepth settings snapshot.counted depth body
    rw [step_comment_inBlock hbody (hstatus.trans hin)]
    exact ⟨level, congrArg (Step.mk · none) hfeed⟩
  case opens =>
    intro body hbody hout _
    obtain ⟨level, hfeed⟩ := feed_withDepth settings
      { snapshot.counted with status := .inBlock, blockTail := .empty, blockSize := 0 } depth body
    rw [step_comment_outOfBlock hbody (hstatus.trans hout)]
    exact ⟨level, congrArg (Step.mk · none) hfeed⟩
  case closes =>
    intro hbody hin hheading
    rw [step_code_inBlock hbody (hstatus.trans hin)]
    exact close_withDepth settings snapshot.counted depth line hheading
  case skips =>
    intro hbody hout _
    rw [step_code_outOfBlock hbody (hstatus.trans hout)]
    exact ⟨depth, rfl⟩

theorem finish_withDepth
    (h : ∀ block ∈ (snapshot.finish settings).block, block.heading = none) :
    ((snapshot.withDepth depth).finish settings).LevelApart (snapshot.finish settings) := by
  have hstatus : (snapshot.withDepth depth).status = snapshot.status := rfl
  revert h
  apply finish_cases (motive := fun step => (∀ block ∈ step.block, block.heading = none) →
    ((snapshot.withDepth depth).finish settings).LevelApart step)
  case closes =>
    intro hin hheading
    rw [finish_inBlock (hstatus.trans hin)]
    exact close_withDepth settings snapshot depth [] hheading
  case skips =>
    intro hout _
    rw [finish_outOfBlock (hstatus.trans hout)]
    exact ⟨depth, rfl⟩

end Level

end Snapshot

namespace Extraction

/-- Blocks without headings are the same at every nesting level. -/
theorem blocks_of_levelApart {deep flat : Extraction} (lines : List Text)
    (hsnapshot : ∃ depth, deep.snapshot = flat.snapshot.withDepth depth)
    (hblocks : deep.blocks = flat.blocks)
    (h : ∀ block ∈ ((flat.feedAll settings lines).finish settings).blocks, block.heading = none) :
    ((deep.feedAll settings lines).finish settings).blocks =
      ((flat.feedAll settings lines).finish settings).blocks := by
  -- blocks are never taken back, so the hypothesis on the final ones is one on each step's block
  induction lines generalizing deep flat with
  | nil =>
    obtain ⟨depth, hdepth⟩ := hsnapshot
    have hheading : ∀ block ∈ (flat.snapshot.finish settings).block, block.heading = none := by
      intro block hblock
      exact h block (List.mem_append_right _ (by simpa using hblock))
    obtain ⟨_, hfinish⟩ := Snapshot.finish_withDepth settings flat.snapshot depth hheading
    rw [feedAll_nil, feedAll_nil, finish_blocks, finish_blocks, hdepth, hfinish, hblocks]
  | cons line lines ih =>
    obtain ⟨depth, hdepth⟩ := hsnapshot
    have hheading : ∀ block ∈ (flat.snapshot.step settings line).block, block.heading = none := by
      intro block hblock
      have hfed : block ∈ (flat.feed settings line).blocks :=
        List.mem_append_right _ (by simpa using hblock)
      exact h block ((blocks_prefix_finish settings _).subset
        ((blocks_prefix_feedAll settings _ lines).subset hfed))
    obtain ⟨level, hstep⟩ := Snapshot.step_withDepth settings flat.snapshot depth line hheading
    rw [feedAll_cons, feedAll_cons]
    refine ih ⟨level, ?_⟩ ?_ h
    · rw [feed, record, hdepth, hstep]
      rfl
    · rw [feed_blocks, feed_blocks, hdepth, hstep, hblocks]

end Extraction

end SlashDoc
