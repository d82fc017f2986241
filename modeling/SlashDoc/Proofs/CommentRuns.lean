import Mathlib.Data.List.TakeWhile
import SlashDoc.Proofs.BlockLayout
import SlashDoc.Proofs.ExtractionRun

/-!
# The blocks of a source, run by run

A source is cut into its maximal runs of comment lines, and each run is judged by the line right
after it. The judgement of a run reads its own bodies, the line after it and, for the nesting level
of a heading, the bodies of all runs before it, dropped ones included. An extraction works line by
line and keeps no such runs; its blocks are nevertheless those of the runs.
-/
namespace SlashDoc

open Text

variable {settings : Settings}

structure Run (α : Type) where
  bodies : List Text
  next : Option α
  deriving DecidableEq, Repr

namespace Run

section Cutting

variable {α : Type} (body? : α → Option Text)

def leadingBodies (items : List α) : List Text :=
  (items.takeWhile fun item => (body? item).isSome).filterMap body?

def afterLeading (items : List α) : List α :=
  items.dropWhile fun item => (body? item).isSome

def all : List α → List (Run α)
  | [] => []
  | item :: rest =>
    if (body? item).isSome then
      ⟨leadingBodies body? (item :: rest), (afterLeading body? rest).head?⟩ ::
        all (afterLeading body? rest)
    else all rest
termination_by items => items.length
decreasing_by
  · exact Nat.lt_succ_of_le (List.length_dropWhile_le _ _)
  · exact Nat.lt_succ_self _

def allAfter (opened : List Text) (items : List α) : List (Run α) :=
  if opened = [] then all body? items
  else ⟨opened ++ leadingBodies body? items, (afterLeading body? items).head?⟩ ::
    all body? (afterLeading body? items)

variable {body?}

theorem all_cons_of_none {item : α} (h : body? item = none) (rest : List α) :
    all body? (item :: rest) = all body? rest := by
  simp [all, h]

theorem allAfter_nil (opened : List Text) :
    allAfter body? opened [] = if opened = [] then [] else [⟨opened, none⟩] := by
  simp [allAfter, all, leadingBodies, afterLeading]

theorem allAfter_cons_of_some {item : α} {body : Text} (h : body? item = some body)
    (opened : List Text) (rest : List α) :
    allAfter body? opened (item :: rest) = allAfter body? (opened ++ [body]) rest := by
  by_cases hopened : opened = [] <;>
    simp [allAfter, all, leadingBodies, afterLeading, h, hopened]

theorem allAfter_cons_of_none {item : α} (h : body? item = none) (opened : List Text)
    (rest : List α) :
    allAfter body? opened (item :: rest) =
      (if opened = [] then [] else [⟨opened, some item⟩]) ++ all body? rest := by
  by_cases hopened : opened = [] <;>
    simp [allAfter, leadingBodies, afterLeading, h, hopened, all_cons_of_none h]

end Cutting

/-- The line right after a run. The end of the source counts as an empty line. -/
def line (run : Run Text) : Text :=
  run.next.getD []

def isKept (run : Run Text) : Bool :=
  isBlankText run.line || (search BoundFunction.start? run.line).isSome ||
    (search NamedFunction.start? run.line).isSome

def level (earlier : List (Run Text)) (run : Run Text) : ℕ :=
  Body.lastLevel ((earlier ++ [run]).flatMap Run.bodies)

def heading (earlier : List (Run Text)) (run : Run Text) (name params : Text) : Text :=
  List.replicate (run.level earlier + 1) '#' ++ [' '] ++ name ++ params

/-- The block that a run adds to the document: the first of a blank line, a bound function and a
named function that fits the line after it says how it is closed. -/
def block? (settings : Settings) (earlier : List (Run Text)) (run : Run Text) : Option Block :=
  let index := earlier.countP isKept
  let lines := Body.layout settings run.bodies
  if isBlankText run.line then some ⟨index, .blankLine, none, lines⟩
  else
    match search BoundFunction.start? run.line, search NamedFunction.start? run.line with
    | some (_, found), _ =>
      let heading := run.heading earlier found.name found.params
      some ⟨index, .boundFunction, some heading, heading :: lines⟩
    | none, some (_, found) =>
      let heading := run.heading earlier found.name found.params
      some ⟨index, .namedFunction, some heading, heading :: lines⟩
    | none, none => none

def blocksAfter (settings : Settings) : (earlier runs : List (Run Text)) → List Block
  | _, [] => []
  | earlier, run :: later =>
    (run.block? settings earlier).toList ++ blocksAfter settings (earlier ++ [run]) later

/-- A snapshot in the middle of a source: which runs are behind it, and which bodies of the current
run it has taken in. Its block and its signatures are only known by what they lead to, because the
last group of signatures may still grow. -/
structure Follows (settings : Settings) (earlier : List (Run Text)) (opened : List Text)
    (snapshot : Snapshot) : Prop where
  balanced : snapshot.Balanced
  content : ∀ more, snapshot.block ++ Body.layoutAfter settings snapshot.signatures more =
    Body.layout settings (opened ++ more)
  depth : snapshot.depth = Body.lastLevel (earlier.flatMap Run.bodies ++ opened)
  kept : snapshot.keptBlocks = earlier.countP isKept
  isOpen : opened ≠ [] → snapshot.status = .inBlock

variable {earlier : List (Run Text)} {opened : List Text} {snapshot : Snapshot}

theorem follows_initial (settings : Settings) : Follows settings [] [] {} where
  balanced := ⟨rfl, rfl⟩
  content more := by
    rw [Body.layout_eq_layoutAfter]
    rfl
  depth := rfl
  kept := rfl
  isOpen h := (h rfl).elim

theorem Follows.flushed_block (h : Follows settings earlier opened snapshot) :
    snapshot.block ++ Signature.tableLines settings snapshot.signatures =
      Body.layout settings opened := by
  simpa [Body.layoutAfter_nil] using h.content []

theorem Follows.hasPending_iff (h : Follows settings earlier opened snapshot) :
    snapshot.hasPending = true ↔ opened ≠ [] := by
  rw [h.balanced.hasPending_iff settings, h.flushed_block, Ne, Body.layout_eq_nil_iff]

/-- A snapshot that has just taken in a body. -/
theorem Follows.feed (h : Follows settings earlier opened snapshot)
    (hopen : snapshot.status = .inBlock) (body : Text) :
    Follows settings earlier (opened ++ [body]) (snapshot.feed settings body) := by
  obtain ⟨_, _, _, _, hframe⟩ := Snapshot.feed_frame settings snapshot body
  constructor
  · exact h.balanced.feed settings body
  · intro more
    rw [h.balanced.feed_layoutAfter, h.content, List.append_assoc, List.singleton_append]
  · rw [hframe, ← List.append_assoc, Body.lastLevel_concat, ← h.depth]
  · rw [hframe]
    exact h.kept
  · intro _
    rw [hframe]
    exact hopen

/-- A snapshot that holds nothing, at the end of a run that was kept or dropped. -/
theorem Follows.closed (h : Follows settings earlier opened snapshot) (next : Option Text)
    {closed : Snapshot} (hbalanced : closed.Balanced) (hblock : closed.block = [])
    (hsignatures : closed.signatures = []) (hdepth : closed.depth = snapshot.depth)
    (hkept : closed.keptBlocks =
      snapshot.keptBlocks + if isKept ⟨opened, next⟩ then 1 else 0) :
    Follows settings (earlier ++ [⟨opened, next⟩]) [] closed := by
  constructor
  · exact hbalanced
  · intro more
    simp [hblock, hsignatures, Body.layout_eq_layoutAfter]
  · simp [hdepth, h.depth]
  · rw [hkept, h.kept]
    simp [List.countP_append, List.countP_cons]
  · intro hne
    exact (hne rfl).elim

theorem Follows.commit (h : Follows settings earlier opened snapshot) (next : Option Text)
    (hkept : isKept ⟨opened, next⟩ = true) (closing : Closing) (heading : Option Text) :
    Follows settings (earlier ++ [⟨opened, next⟩]) []
      (snapshot.commit settings closing heading).snapshot := by
  obtain ⟨documentLines, hcommit⟩ := h.balanced.commit_snapshot settings closing heading
  rw [hcommit]
  exact h.closed next ⟨rfl, rfl⟩ rfl rfl rfl (by simp [hkept])

theorem Follows.discard (h : Follows settings earlier opened snapshot) (next : Option Text)
    (hkept : isKept ⟨opened, next⟩ = false) :
    Follows settings (earlier ++ [⟨opened, next⟩]) [] snapshot.discard :=
  h.closed next ⟨rfl, rfl⟩ rfl rfl rfl (by simp [hkept, Snapshot.discard])

theorem Follows.headingFor (h : Follows settings earlier opened snapshot) (next : Option Text)
    (name params : Text) :
    snapshot.headingFor name params = heading earlier ⟨opened, next⟩ name params := by
  have hlevel : snapshot.depth = level earlier ⟨opened, next⟩ := by
    rw [h.depth, level]
    simp
  rw [Snapshot.headingFor, heading, hlevel]

theorem Follows.commit_block (h : Follows settings earlier opened snapshot) (closing : Closing)
    (heading : Option Text) :
    (snapshot.commit settings closing heading).block =
      some ⟨earlier.countP isKept, closing, heading,
        Snapshot.committedLines heading (Body.layout settings opened)⟩ := by
  rw [h.balanced.commit_block, h.flushed_block, h.kept]

theorem Follows.commit_function_block (h : Follows settings earlier opened snapshot)
    (next : Option Text) (closing : Closing) (name params : Text) :
    (snapshot.commit settings closing (some (snapshot.headingFor name params))).block =
      some ⟨earlier.countP isKept, closing, some (heading earlier ⟨opened, next⟩ name params),
        heading earlier ⟨opened, next⟩ name params :: Body.layout settings opened⟩ := by
  rw [h.commit_block, Snapshot.committedLines_headingFor, h.headingFor next]

/-- Closing an open run gives the block of the run and leaves the run behind. -/
theorem Follows.close (h : Follows settings earlier opened snapshot) (hopened : opened ≠ [])
    (next : Option Text) :
    (snapshot.close settings (next.getD [])).block = block? settings earlier ⟨opened, next⟩ ∧
      Follows settings (earlier ++ [⟨opened, next⟩]) []
        (snapshot.close settings (next.getD [])).snapshot := by
  have hpending := h.hasPending_iff.mpr hopened
  have hline : line ⟨opened, next⟩ = next.getD [] := rfl
  by_cases hblank : isBlankText (next.getD []) = true
  · simp only [Snapshot.close, hpending, CodeLine.classify, hblank, if_true]
    refine ⟨?_, h.commit next (by simp [isKept, hline, hblank]) _ _⟩
    rw [h.commit_block]
    simp [block?, hline, hblank, Snapshot.committedLines]
  · cases hbound : search BoundFunction.start? (next.getD []) with
    | some found =>
      simp only [Snapshot.close, hpending, CodeLine.classify, hblank, hbound, if_true,
        Bool.false_eq_true, if_false]
      refine ⟨?_, h.commit next (by simp [isKept, hline, hbound]) _ _⟩
      rw [h.commit_function_block next]
      simp [block?, hline, hblank, hbound]
    | none =>
      cases hnamed : search NamedFunction.start? (next.getD []) with
      | some found =>
        simp only [Snapshot.close, hpending, CodeLine.classify, hblank, hbound, hnamed, if_true,
          Bool.false_eq_true, if_false]
        refine ⟨?_, h.commit next (by simp [isKept, hline, hnamed]) _ _⟩
        rw [h.commit_function_block next]
        simp [block?, hline, hblank, hbound, hnamed]
      | none =>
        simp only [Snapshot.close, hpending, CodeLine.classify, hblank, hbound, hnamed, if_true,
          Bool.false_eq_true, if_false]
        refine ⟨?_, h.discard next (by simp [isKept, hline, hblank, hbound, hnamed])⟩
        simp [block?, hline, hblank, hbound, hnamed]

/-- Closing where nothing was opened gives no block. -/
theorem Follows.close_nil (h : Follows settings earlier [] snapshot) (line : Text) :
    (snapshot.close settings line).block = none ∧
      Follows settings earlier [] (snapshot.close settings line).snapshot := by
  have hpending : snapshot.hasPending = false := by
    simpa using h.hasPending_iff
  have hclose : snapshot.close settings line =
      { snapshot := { snapshot with status := .outOfBlock } } := by
    simp [Snapshot.close, hpending]
  rw [hclose]
  exact ⟨rfl, ⟨h.balanced.blockSize, h.balanced.signatureCount⟩, h.content, h.depth, h.kept,
    fun hne => (hne rfl).elim⟩

theorem Follows.counted (h : Follows settings earlier opened snapshot) :
    Follows settings earlier opened snapshot.counted :=
  ⟨⟨h.balanced.blockSize, h.balanced.signatureCount⟩, h.content, h.depth, h.kept, h.isOpen⟩

/-- Opening a run starts from an empty block anyway, so it is the same as going on with one. -/
theorem Follows.openBlock (h : Follows settings earlier opened snapshot)
    (hclosed : snapshot.status = .outOfBlock) (body : Text) :
    Follows settings earlier (opened ++ [body]) (snapshot.openBlock settings body) := by
  have hopened : opened = [] := by
    by_contra hne
    rw [h.isOpen hne] at hclosed
    cases hclosed
  have hblock : snapshot.block = [] := by
    have hnil := h.flushed_block
    rw [hopened, Body.layout_eq_nil_iff.mpr rfl] at hnil
    exact (List.append_eq_nil_iff.mp hnil).1
  have hempty : Follows settings earlier opened
      { snapshot with status := .inBlock, blockTail := .empty, blockSize := 0 } := by
    refine ⟨⟨rfl, h.balanced.signatureCount⟩, ?_, h.depth, h.kept, fun _ => rfl⟩
    intro more
    have hmore := h.content more
    rwa [hblock] at hmore
  exact hempty.feed rfl body

theorem Follows.step_comment (h : Follows settings earlier opened snapshot) {line body : Text}
    (hbody : Comment.body? line = some body) :
    (snapshot.step settings line).block = none ∧
      Follows settings earlier (opened ++ [body]) (snapshot.step settings line).snapshot := by
  cases hstatus : snapshot.status with
  | inBlock =>
    rw [Snapshot.step_comment_inBlock hbody hstatus]
    exact ⟨rfl, h.counted.feed hstatus body⟩
  | outOfBlock =>
    rw [Snapshot.step_comment_outOfBlock hbody hstatus]
    exact ⟨rfl, h.counted.openBlock hstatus body⟩

theorem Follows.step_code (h : Follows settings earlier opened snapshot) (hopened : opened ≠ [])
    {line : Text} (hbody : Comment.body? line = none) :
    (snapshot.step settings line).block = block? settings earlier ⟨opened, some line⟩ ∧
      Follows settings (earlier ++ [⟨opened, some line⟩]) []
        (snapshot.step settings line).snapshot := by
  rw [Snapshot.step_code_inBlock hbody (h.isOpen hopened)]
  exact h.counted.close hopened (some line)

theorem Follows.step_code_nil (h : Follows settings earlier [] snapshot) {line : Text}
    (hbody : Comment.body? line = none) :
    (snapshot.step settings line).block = none ∧
      Follows settings earlier [] (snapshot.step settings line).snapshot := by
  cases hstatus : snapshot.status with
  | inBlock =>
    rw [Snapshot.step_code_inBlock hbody hstatus]
    exact h.counted.close_nil line
  | outOfBlock =>
    rw [Snapshot.step_code_outOfBlock hbody hstatus]
    exact ⟨rfl, h.counted⟩

theorem Follows.finish_block (h : Follows settings earlier opened snapshot) :
    (snapshot.finish settings).block.toList =
      blocksAfter settings earlier (allAfter Comment.body? opened []) := by
  by_cases hopened : opened = []
  · subst hopened
    cases hstatus : snapshot.status with
    | inBlock =>
      rw [Snapshot.finish_inBlock hstatus, (h.close_nil []).1]
      simp [allAfter_nil, blocksAfter]
    | outOfBlock =>
      rw [Snapshot.finish_outOfBlock hstatus]
      simp [allAfter_nil, blocksAfter]
  · have hclose := (h.close hopened none).1
    rw [Option.getD_none] at hclose
    rw [Snapshot.finish_inBlock (h.isOpen hopened), hclose]
    simp [allAfter_nil, hopened, blocksAfter]

/-- Whatever stands behind a snapshot, the rest of the source gives the blocks of its runs. -/
theorem Follows.blocks_finish {extraction : Extraction}
    (h : Follows settings earlier opened extraction.snapshot) (lines : List Text) :
    ((extraction.feedAll settings lines).finish settings).blocks =
      extraction.blocks ++
        blocksAfter settings earlier (allAfter Comment.body? opened lines) := by
  induction lines generalizing extraction earlier opened with
  | nil => simp [h.finish_block]
  | cons line lines ih =>
    cases hbody : Comment.body? line with
    | some body =>
      obtain ⟨hblock, hnext⟩ := h.step_comment hbody
      rw [Extraction.feedAll_cons, ih hnext, allAfter_cons_of_some hbody]
      simp [hblock]
    | none =>
      rw [Extraction.feedAll_cons, allAfter_cons_of_none hbody]
      by_cases hopened : opened = []
      · subst hopened
        obtain ⟨hblock, hnext⟩ := h.step_code_nil hbody
        rw [ih hnext]
        simp [hblock, allAfter]
      · obtain ⟨hblock, hnext⟩ := h.step_code hopened hbody
        rw [ih hnext]
        simp [hblock, hopened, allAfter, blocksAfter]

end Run

/-- The blocks of a source are those of its maximal runs of comments, each judged by the line right
after it. -/
theorem blocks_eq_blocksAfter_runs (settings : Settings) (lines : List Text) :
    ((Extraction.feedAll settings {} lines).finish settings).blocks =
      Run.blocksAfter settings [] (Run.all Comment.body? lines) := by
  have h : Run.Follows settings [] [] ({} : Extraction).snapshot := Run.follows_initial settings
  simpa [Run.allAfter] using h.blocks_finish lines

end SlashDoc
