import Mathlib.Data.List.Induction
import SlashDoc.Proofs.LineFeeds

/-!
# The lines of the document and their number

The document is put together block by block, and a snapshot counts its lines without seeing it. The
two have different rules for the empty line between two blocks, and the count takes every line of a
block for one line of the text. Both come out right because no kept block is empty and because no
line of a block has a line feed in it, whatever the source lines look like.
-/
namespace SlashDoc

open Text

theorem intercalate_append {α : Type} (separator : List α) {xs ys : List (List α)}
    (hxs : xs ≠ []) (hys : ys ≠ []) :
    List.intercalate separator (xs ++ ys) =
      List.intercalate separator xs ++ separator ++ List.intercalate separator ys := by
  induction xs with
  | nil => exact (hxs rfl).elim
  | cons x xs ih =>
    by_cases hrest : xs = []
    · subst hrest
      rw [List.singleton_append, List.intercalate_cons_of_ne_nil hys, List.intercalate_singleton]
    · have happend : xs ++ ys ≠ [] := by simp [hrest]
      rw [List.cons_append, List.intercalate_cons_of_ne_nil happend, ih hrest,
        List.intercalate_cons_of_ne_nil hrest]
      simp only [List.append_assoc]

namespace Block

theorem document_concat (blocks : List Block) (block : Block) :
    document (blocks ++ [block]) =
      (if document blocks = [] then [] else document blocks ++ [[]]) ++ block.lines := by
  rw [document, List.foldl_append]
  rfl

theorem document_eq_nil_iff {blocks : List Block} (h : ∀ block ∈ blocks, block.lines ≠ []) :
    document blocks = [] ↔ blocks = [] := by
  cases blocks using List.reverseRecOn with
  | nil => simp [document]
  | append_singleton blocks block => simp [document_concat, h block (by simp)]

/-- Without empty blocks the document has exactly one empty line between two blocks. -/
theorem document_eq_intercalate {blocks : List Block} (h : ∀ block ∈ blocks, block.lines ≠ []) :
    document blocks = List.intercalate [[]] (blocks.map Block.lines) := by
  induction blocks using List.reverseRecOn with
  | nil => rfl
  | append_singleton blocks block ih =>
    have hfront : ∀ block ∈ blocks, block.lines ≠ [] := fun b hb =>
      h b (List.mem_append_left _ hb)
    rw [document_concat, List.map_append, List.map_singleton]
    by_cases hblocks : blocks = []
    · subst hblocks
      simp [document]
    · have hdocument : document blocks ≠ [] := by
        rwa [Ne, document_eq_nil_iff hfront]
      rw [if_neg hdocument, intercalate_append _ (by simpa using hblocks) (by simp), ih hfront,
        List.intercalate_singleton]

end Block

namespace Snapshot

def linesWith (documentLines : ℕ) : Option Block → ℕ
  | none => documentLines
  | some block =>
    documentLines + (if documentLines = 0 ∨ block.lines = [] then 0 else 1) + block.lines.length

def Counts (before : Snapshot) (step : Step) : Prop :=
  step.snapshot.documentLines = linesWith before.documentLines step.block

variable (settings : Settings) (snapshot : Snapshot)

theorem feed_documentLines (body : Text) :
    (snapshot.feed settings body).documentLines = snapshot.documentLines := by
  obtain ⟨_, _, _, _, hframe⟩ := feed_frame settings snapshot body
  rw [hframe]

theorem counts_commit (closing : Closing) (heading : Option Text) :
    snapshot.Counts (snapshot.commit settings closing heading) := by
  obtain ⟨_, _, _, _, hflush⟩ := flushSignatures_frame settings snapshot
  simp [Counts, commit, linesWith, hflush]

theorem counts_close (line : Text) : snapshot.Counts (snapshot.close settings line) := by
  unfold close
  split
  · cases CodeLine.classify line with
    | blank => exact counts_commit settings snapshot _ _
    | boundFunction name params => exact counts_commit settings snapshot _ _
    | namedFunction name params => exact counts_commit settings snapshot _ _
    | other => rfl
  · rfl

theorem counts_step (line : Text) : snapshot.Counts (snapshot.step settings line) := by
  apply step_cases
  case feeds => exact fun body _ _ => feed_documentLines settings snapshot.counted body
  case opens => exact fun body _ _ => feed_documentLines settings _ body
  case closes => exact fun _ _ => counts_close settings snapshot.counted line
  case skips => exact fun _ _ => rfl

theorem counts_finish : snapshot.Counts (snapshot.finish settings) := by
  apply finish_cases
  case closes => exact fun _ => counts_close settings snapshot []
  case skips => exact fun _ => rfl

end Snapshot

theorem Call.counts_apply (snapshot : Snapshot) (call : Call) :
    snapshot.Counts (call.apply snapshot) := by
  cases call with
  | line settings text => exact Snapshot.counts_step settings snapshot text
  | finish settings => exact Snapshot.counts_finish settings snapshot

/-- The counter of document lines is right after all calls. -/
theorem documentLines_after (calls : List Call) :
    (Session.after calls).snapshot.documentLines =
      (Block.document (Session.after calls).blocks).length := by
  induction calls using List.reverseRecOn with
  | nil => rfl
  | append_singleton calls call ih =>
    have hshape := (sound_after (calls ++ [call])).shape
    rw [Session.after_concat] at hshape ⊢
    simp only [Session.call] at hshape ⊢
    rw [Call.counts_apply, ih]
    cases hblock : (call.apply (Session.after calls).snapshot).block with
    | none => simp [Snapshot.linesWith]
    | some block =>
      -- the new block has lines, so the document gets an empty line exactly if it has lines too
      have hlines : block.lines ≠ [] := (hshape block (by simp [hblock])).2
      rw [Option.toList_some, Block.document_concat]
      by_cases hempty : Block.document (Session.after calls).blocks = []
      · simp [Snapshot.linesWith, hempty]
      · simp only [Snapshot.linesWith, hempty, hlines, if_false, List.length_append,
          List.length_eq_zero_iff, or_self, List.length_singleton]

theorem count_lineFeed_unlines {lines : List Text} (hne : lines ≠ [])
    (h : ∀ line ∈ lines, OneLine line) : (unlines lines).count '\n' + 1 = lines.length := by
  induction lines with
  | nil => exact (hne rfl).elim
  | cons line lines ih =>
    have hline : line.count '\n' = 0 := List.count_eq_zero.mpr (h line List.mem_cons_self)
    by_cases hlines : lines = []
    · subst hlines
      simp [unlines, List.intercalate_singleton, hline]
    · have hrest := ih hlines fun other hother => h other (List.mem_cons_of_mem line hother)
      rw [unlines] at hrest ⊢
      rw [List.intercalate_cons_of_ne_nil hlines, List.count_append, List.count_append, hline,
        List.count_singleton_self, List.length_cons, ← hrest]
      omega

theorem oneLine_of_mem_document {blocks : List Block}
    (h : ∀ block ∈ blocks, ∀ line ∈ block.lines, OneLine line) :
    ∀ line ∈ Block.document blocks, OneLine line := by
  induction blocks using List.reverseRecOn with
  | nil => simp [Block.document]
  | append_singleton blocks block ih =>
    have hfront := ih fun other hother => h other (List.mem_append_left _ hother)
    intro line hline
    rw [Block.document_concat] at hline
    rcases List.mem_append.mp hline with hline | hline
    · split at hline
      · cases hline
      · rcases List.mem_append.mp hline with hline | hline
        · exact hfront line hline
        · rw [List.mem_singleton.mp hline]
          exact List.not_mem_nil
    · exact h block (by simp) line hline

namespace Extraction

def call (extraction : Extraction) : Call → Extraction
  | .line settings text => extraction.feed settings text
  | .finish settings => extraction.finish settings

def after (calls : List Call) : Extraction :=
  calls.foldl call {}

/-- An extraction collects the blocks that the calls give back. -/
theorem after_eq_session (calls : List Call) :
    (after calls).snapshot = (Session.after calls).snapshot ∧
      (after calls).blocks = (Session.after calls).blocks := by
  induction calls using List.reverseRecOn with
  | nil => exact ⟨rfl, rfl⟩
  | append_singleton calls last ih =>
    obtain ⟨hsnapshot, hblocks⟩ := ih
    have hafter : after (calls ++ [last]) = (after calls).call last := by
      simp [after, List.foldl_append]
    rw [hafter, Session.after_concat, Session.call, ← hsnapshot, ← hblocks]
    cases last with
    | line settings text => exact ⟨rfl, rfl⟩
    | finish settings => exact ⟨rfl, rfl⟩

end Extraction

/-- After any calls the lines of the document are those of the blocks that were given back, with
one empty line between two blocks; the snapshot counts them; and as long as the settings bring no
line feed into a table, they are the lines of the text as well. -/
theorem document_lines_counted (calls : List Call) :
    let extraction := Extraction.after calls
    Block.document extraction.blocks =
        List.intercalate [[]] ((Session.after calls).blocks.map Block.lines) ∧
      extraction.snapshot.documentLines = (Block.document extraction.blocks).length ∧
      ((∀ call ∈ calls, '\n' ∉ call.settings.separator ∧ '\n' ∉ call.settings.tableClass) →
        0 < extraction.snapshot.keptBlocks →
        extraction.snapshot.documentLines = extraction.document.count '\n' + 1) := by
  intro extraction
  obtain ⟨hsnapshot, hblocks⟩ := Extraction.after_eq_session calls
  have hsound := sound_after calls
  have hlines : ∀ block ∈ (Session.after calls).blocks, block.lines ≠ [] := fun block hblock =>
    (hsound.shape block hblock).2
  have hlength : extraction.snapshot.documentLines =
      (Block.document extraction.blocks).length := by
    rw [hsnapshot, hblocks]
    exact documentLines_after calls
  refine ⟨?_, hlength, ?_⟩
  · rw [hblocks]
    exact Block.document_eq_intercalate hlines
  · intro hsettings hkept
    have hdocument : Block.document extraction.blocks ≠ [] := by
      rw [hblocks, Ne, Block.document_eq_nil_iff hlines, ← List.length_eq_zero_iff, ← hsound.kept,
        ← hsnapshot]
      exact Nat.ne_of_gt hkept
    have hfree : ∀ line ∈ Block.document extraction.blocks, OneLine line := by
      rw [hblocks]
      exact oneLine_of_mem_document (oneLine_of_mem_blocks hsettings).2
    rw [hlength, Extraction.document, count_lineFeed_unlines hdocument hfree]

/-- An empty comment makes a document of one empty line; the next block is still set apart. -/
theorem document_lines_counted_after_empty_line :
    let calls := [Call.line {} "//".toList, .finish {}, .line {} "// f :: a\n".toList,
      .line {} "x\nfunction f(b)\ny".toList, .finish {}]
    (Extraction.after calls).snapshot.keptBlocks = 2 ∧
      (Extraction.after calls).snapshot.documentLines = 4 ∧
      (Extraction.after calls).snapshot.documentLines =
        (Extraction.after calls).document.count '\n' + 1 := by
  intro calls
  have hkept : (Extraction.after calls).snapshot.keptBlocks = 2 := by decide
  refine ⟨hkept, by decide, ?_⟩
  exact (document_lines_counted calls).2.2 (by decide) (by rw [hkept]; decide)

end SlashDoc
