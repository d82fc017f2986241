import Mathlib.Logic.Relation
import SlashDoc.Proofs.Continuation

/-!
# Code that no comment precedes

Only the line right after a run of comments says what happens to the run. All other code can be put
into a source or taken out of it without a trace in the document, wherever it stands and whatever it
looks like. The number of lines is the only thing that a snapshot remembers of it.
-/
namespace SlashDoc

/-- Lines of code put into a source at its start or directly after another line of code. -/
inductive CodeInsertion : List Text → List Text → Prop where
  | insert (before code after : List Text) (hcode : ∀ line ∈ code, Comment.body? line = none)
      (hbefore : ∀ line ∈ before.getLast?, Comment.body? line = none) :
      CodeInsertion (before ++ after) (before ++ code ++ after)

/-- The comment lines of a source, and each line of code that comes directly after one. -/
def attachedLines : (afterComment : Bool) → List Text → List Text
  | _, [] => []
  | afterComment, line :: lines =>
    if (Comment.body? line).isSome then line :: attachedLines true lines
    else if afterComment then line :: attachedLines false lines
    else attachedLines false lines

/-- Taking code away line by line leaves the attached lines. -/
theorem eqvGen_attachedLines (before lines : List Text) (afterComment : Bool)
    (h : afterComment = false → ∀ line ∈ before.getLast?, Comment.body? line = none) :
    Relation.EqvGen CodeInsertion (before ++ attachedLines afterComment lines)
      (before ++ lines) := by
  -- the lines already gone through move into `before`, where they are no longer changed
  induction lines generalizing before afterComment with
  | nil => exact .refl _
  | cons line lines ih =>
    cases hbody : Comment.body? line with
    | some body =>
      have hrest := ih (before ++ [line]) true (by simp)
      simpa [attachedLines, hbody] using hrest
    | none =>
      cases afterComment with
      | true =>
        have hrest := ih (before ++ [line]) false (by simp [hbody])
        simpa [attachedLines, hbody] using hrest
      | false =>
        have hrest := ih before false h
        have hline : CodeInsertion (before ++ lines) (before ++ [line] ++ lines) :=
          .insert before [line] lines (by simpa using hbody) (h rfl)
        have hboth := hrest.trans _ _ _ (.rel _ _ hline)
        simpa [attachedLines, hbody] using hboth

namespace Extraction

def outcome (extraction : Extraction) : List Block × Snapshot :=
  (extraction.blocks, { extraction.snapshot with processedLines := 0 })

variable (settings : Settings)

theorem not_hasPending_feedAll {lines : List Text}
    (h : ∀ line ∈ lines.getLast?, Comment.body? line = none) :
    (feedAll settings {} lines).snapshot.hasPending = false := by
  have hopen := (sound_feedAll settings lines).isOpen
  cases lines using List.reverseRecOn with
  | nil => rfl
  | append_singleton lines line =>
    have hline : (Call.line settings line).body? = none := h line (by simp)
    rw [List.map_append, List.map_singleton, Run.endsOpen_concat, hline] at hopen
    exact hopen.symm

theorem ahead_refl (lines : List Text) :
    Ahead [] 0 (feedAll settings {} lines) (feedAll settings {} lines) := by
  have hsound := sound_feedAll settings lines
  have hstatus : (feedAll settings {} lines).snapshot.status = .inBlock ∨
      (feedAll settings {} lines).snapshot.hasPending = false := by
    cases hstatus : (feedAll settings {} lines).snapshot.status with
    | inBlock => exact Or.inl rfl
    | outOfBlock => exact Or.inr (hsound.outside hstatus)
  refine ⟨Snapshot.ahead_withPast hsound.balanced hstatus _ _ 0 0, ?_⟩
  rw [List.nil_append, List.length_nil, Block.map_shift_zero]

/-- Two sources that are gone through in the same way, apart from the past, come to the same. -/
theorem outcome_eq_of_ahead {lines edited : List Text}
    (h : Ahead [] 0 (ofLines settings edited) (ofLines settings lines)) :
    (ofLines settings edited).outcome = (ofLines settings lines).outcome := by
  have hblocks := h.blocks_eq
  have hlines : (ofLines settings edited).snapshot.documentLines =
      (ofLines settings lines).snapshot.documentLines := by
    rw [documentLines_ofLines, documentLines_ofLines, hblocks]
  have hcontent := h.snapshot.content
  rw [status_ofLines, hlines, ← status_ofLines settings lines] at hcontent
  rw [outcome, outcome, hblocks, hcontent]
  simp [Snapshot.withPast]

theorem outcome_of_insertion {lines edited : List Text} (h : CodeInsertion lines edited) :
    (ofLines settings edited).outcome = (ofLines settings lines).outcome := by
  obtain ⟨before, code, after, hcode, hbefore⟩ := h
  have hskip := (ahead_refl settings before).skip (not_hasPending_feedAll settings hbefore) settings
    hcode
  have hrest := (hskip.feedAll settings after).finish settings
  rw [← feedAll_append, ← feedAll_append, ← feedAll_append, ← List.append_assoc] at hrest
  exact outcome_eq_of_ahead settings hrest

theorem outcome_of_eqvGen {lines edited : List Text}
    (h : Relation.EqvGen CodeInsertion lines edited) :
    (ofLines settings edited).outcome = (ofLines settings lines).outcome := by
  induction h with
  | rel _ _ hinsertion => exact outcome_of_insertion settings hinsertion
  | refl => rfl
  | symm _ _ _ ih => exact ih.symm
  | trans _ _ _ _ _ hfirst hsecond => exact hsecond.trans hfirst

end Extraction

/-- Putting in and taking out code that does not come directly after a comment, any number of times
and anywhere, changes neither the blocks nor the document, and nothing in the final snapshot but the
number of lines. So the document is that of the attached lines alone. -/
theorem unattached_code_unobserved (settings : Settings) {lines edited : List Text}
    (h : Relation.EqvGen CodeInsertion lines edited) :
    let first := Extraction.ofLines settings lines
    let second := Extraction.ofLines settings edited
    second.blocks = first.blocks ∧
      second.document = first.document ∧
      second.snapshot = { first.snapshot with processedLines := edited.length } ∧
      first.document = (Extraction.ofLines settings (attachedLines false lines)).document := by
  intro first second
  have houtcome := Extraction.outcome_of_eqvGen settings h
  have hattached := Extraction.outcome_of_eqvGen settings
    (eqvGen_attachedLines [] lines false (by simp))
  have hblocks : second.blocks = first.blocks := congrArg Prod.fst houtcome
  refine ⟨hblocks, ?_, ?_, ?_⟩
  · rw [Extraction.document, hblocks]
    rfl
  · have hsnapshot : ({ second.snapshot with processedLines := 0 } : Snapshot) =
        { first.snapshot with processedLines := 0 } := congrArg Prod.snd houtcome
    have hlength : second.snapshot.processedLines = edited.length :=
      Extraction.processedLines_ofLines settings edited
    calc
      second.snapshot = { ({ second.snapshot with processedLines := 0 } : Snapshot) with
          processedLines := second.snapshot.processedLines } := rfl
      _ = { first.snapshot with processedLines := edited.length } := by rw [hsnapshot, hlength]
  · have hsame : first.blocks =
        (Extraction.ofLines settings (attachedLines false lines)).blocks :=
      congrArg Prod.fst hattached
    rw [Extraction.document, hsame]
    rfl

/-- A function is moved from the start of the source to the place behind a blank line. -/
theorem unattached_code_unobserved_when_moved :
    let lines := ["function f()", "// a", "", "// b"].map String.toList
    let edited := ["// a", "", "function f()", "// b"].map String.toList
    Relation.EqvGen CodeInsertion lines edited ∧
      (Extraction.ofLines {} lines).document = "a\n\nb".toList ∧
      (Extraction.ofLines {} edited).document = (Extraction.ofLines {} lines).document := by
  intro lines edited
  have hout : CodeInsertion (["// a", "", "// b"].map String.toList) lines :=
    .insert [] ["function f()".toList] _ (by decide) (by decide)
  have hin : CodeInsertion (["// a", "", "// b"].map String.toList) edited :=
    .insert ["// a".toList, []] ["function f()".toList] ["// b".toList] (by decide) (by decide)
  have h : Relation.EqvGen CodeInsertion lines edited :=
    .trans _ _ _ (.symm _ _ (.rel _ _ hout)) (.rel _ _ hin)
  exact ⟨h, by decide, (unattached_code_unobserved {} h).2.1⟩

end SlashDoc
