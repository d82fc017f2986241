import Mathlib.Data.List.Basic
import SlashDoc.Extraction.Document

/-!
# Runs of an extraction

What one line does to a snapshot, by the kind of the line and the status of the snapshot, and what
a whole run of lines does to an extraction: it only ever adds blocks.
-/
namespace SlashDoc

namespace Snapshot

def counted (snapshot : Snapshot) : Snapshot :=
  { snapshot with processedLines := snapshot.processedLines + 1 }

variable {settings : Settings} {snapshot : Snapshot} {line body : Text}

theorem step_comment_inBlock (hbody : Comment.body? line = some body)
    (hstatus : snapshot.status = .inBlock) :
    snapshot.step settings line = { snapshot := snapshot.counted.feed settings body } := by
  cases snapshot
  subst hstatus
  simp [step, hbody, counted]

theorem step_comment_outOfBlock (hbody : Comment.body? line = some body)
    (hstatus : snapshot.status = .outOfBlock) :
    snapshot.step settings line = { snapshot := snapshot.counted.openBlock settings body } := by
  cases snapshot
  subst hstatus
  simp [step, hbody, counted]

theorem step_code_inBlock (hbody : Comment.body? line = none)
    (hstatus : snapshot.status = .inBlock) :
    snapshot.step settings line = snapshot.counted.close settings line := by
  cases snapshot
  subst hstatus
  simp [step, hbody, counted]

theorem step_code_outOfBlock (hbody : Comment.body? line = none)
    (hstatus : snapshot.status = .outOfBlock) :
    snapshot.step settings line = { snapshot := snapshot.counted } := by
  cases snapshot
  subst hstatus
  simp [step, hbody, counted]

/-- The four things that a line can do, by its kind and by the status of the snapshot. -/
theorem step_cases {motive : Step → Prop} (settings : Settings) (snapshot : Snapshot) (line : Text)
    (feeds : ∀ body, Comment.body? line = some body → snapshot.status = .inBlock →
      motive { snapshot := snapshot.counted.feed settings body })
    (opens : ∀ body, Comment.body? line = some body → snapshot.status = .outOfBlock →
      motive { snapshot := snapshot.counted.openBlock settings body })
    (closes : Comment.body? line = none → snapshot.status = .inBlock →
      motive (snapshot.counted.close settings line))
    (skips : Comment.body? line = none → snapshot.status = .outOfBlock →
      motive { snapshot := snapshot.counted }) :
    motive (snapshot.step settings line) := by
  cases hbody : Comment.body? line with
  | some body =>
    cases hstatus : snapshot.status with
    | inBlock => exact step_comment_inBlock hbody hstatus ▸ feeds body hbody hstatus
    | outOfBlock => exact step_comment_outOfBlock hbody hstatus ▸ opens body hbody hstatus
  | none =>
    cases hstatus : snapshot.status with
    | inBlock => exact step_code_inBlock hbody hstatus ▸ closes hbody hstatus
    | outOfBlock => exact step_code_outOfBlock hbody hstatus ▸ skips hbody hstatus

theorem finish_inBlock (hstatus : snapshot.status = .inBlock) :
    snapshot.finish settings = snapshot.close settings [] := by
  rw [finish, hstatus]

theorem finish_outOfBlock (hstatus : snapshot.status = .outOfBlock) :
    snapshot.finish settings = { snapshot } := by
  rw [finish, hstatus]

theorem finish_cases {motive : Step → Prop} (settings : Settings) (snapshot : Snapshot)
    (closes : snapshot.status = .inBlock → motive (snapshot.close settings []))
    (skips : snapshot.status = .outOfBlock → motive { snapshot }) :
    motive (snapshot.finish settings) := by
  cases hstatus : snapshot.status with
  | inBlock => exact finish_inBlock hstatus ▸ closes hstatus
  | outOfBlock => exact finish_outOfBlock hstatus ▸ skips hstatus

end Snapshot

namespace Extraction

variable (settings : Settings)

@[simp] theorem feed_blocks (extraction : Extraction) (line : Text) :
    (extraction.feed settings line).blocks =
      extraction.blocks ++ (extraction.snapshot.step settings line).block.toList := rfl

@[simp] theorem finish_blocks (extraction : Extraction) :
    (extraction.finish settings).blocks =
      extraction.blocks ++ (extraction.snapshot.finish settings).block.toList := rfl

theorem finish_snapshot (extraction : Extraction) :
    (extraction.finish settings).snapshot = (extraction.snapshot.finish settings).snapshot := rfl

@[simp] theorem feedAll_nil (extraction : Extraction) :
    extraction.feedAll settings [] = extraction := rfl

@[simp] theorem feedAll_cons (extraction : Extraction) (line : Text) (lines : List Text) :
    extraction.feedAll settings (line :: lines) =
      (extraction.feed settings line).feedAll settings lines := rfl

theorem feedAll_append (extraction : Extraction) (before after : List Text) :
    extraction.feedAll settings (before ++ after) =
      (extraction.feedAll settings before).feedAll settings after :=
  List.foldl_append

theorem blocks_prefix_feedAll (extraction : Extraction) (lines : List Text) :
    extraction.blocks <+: (extraction.feedAll settings lines).blocks := by
  induction lines generalizing extraction with
  | nil => exact List.prefix_rfl
  | cons line lines ih => exact (List.prefix_append _ _).trans (ih (extraction.feed settings line))

theorem blocks_prefix_finish (extraction : Extraction) :
    extraction.blocks <+: (extraction.finish settings).blocks :=
  List.prefix_append _ _

/-- The number of blocks grows with the number of lines. -/
theorem length_blocks_take_mono (extraction : Extraction) (lines : List Text) {m n : ℕ}
    (h : m ≤ n) :
    (extraction.feedAll settings (lines.take m)).blocks.length ≤
      (extraction.feedAll settings (lines.take n)).blocks.length := by
  obtain ⟨tail, htail⟩ := List.take_prefix_take_left (l := lines) h
  rw [← htail, feedAll_append]
  exact (blocks_prefix_feedAll settings _ tail).length_le

end Extraction

end SlashDoc
