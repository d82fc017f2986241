import SlashDoc.Proofs.CommentRuns

/-!
# Snapshots that calls can lead to

A caller hands over lines and may end the source at any time, also several times, with other
settings each time. Every snapshot that such calls lead to has empty sequences outside a run, right
counters and a positive nesting level, and the calls account for every block it has kept or
dropped. Nothing is said here about snapshots that were built in another way.
-/
namespace SlashDoc

inductive Call where
  | line (settings : Settings) (text : Text)
  | finish (settings : Settings)
  deriving DecidableEq, Repr

namespace Call

def apply (snapshot : Snapshot) : Call → Step
  | line settings text => snapshot.step settings text
  | finish settings => snapshot.finish settings

/-- The body of a comment line that is handed over. The end of a source has none, so it ends a run
just as a line of code does. -/
def body? : Call → Option Text
  | line _ text => Comment.body? text
  | finish _ => none

def isLine : Call → Bool
  | line _ _ => true
  | finish _ => false

def settings : Call → Settings
  | line settings _ => settings
  | finish settings => settings

end Call

def Run.isEnded {α : Type} (run : Run α) : Bool :=
  run.next.isSome

structure Session where
  snapshot : Snapshot := {}
  blocks : List Block := []
  deriving DecidableEq, Repr

def Session.call (session : Session) (call : Call) : Session :=
  { snapshot := (call.apply session.snapshot).snapshot
    blocks := session.blocks ++ (call.apply session.snapshot).block.toList }

def Session.after (calls : List Call) : Session :=
  calls.foldl Session.call {}

theorem Session.after_concat (calls : List Call) (call : Call) :
    Session.after (calls ++ [call]) = (Session.after calls).call call := by
  simp [Session.after, List.foldl_append]

inductive Snapshot.Closes (snapshot : Snapshot) : Step → Prop where
  | empty (hpending : snapshot.hasPending = false) :
      snapshot.Closes { snapshot := { snapshot with status := .outOfBlock } }
  | keeps (documentLines : ℕ) (closing : Closing) (heading : Option Text) (lines : List Text)
      (hpending : snapshot.hasPending = true) (hclosing : closing ≠ .discarded)
      (hlines : lines ≠ []) :
      snapshot.Closes
        { snapshot :=
            { snapshot with
              status := .outOfBlock
              blockTail := .empty
              blockSize := 0
              signatureTail := .empty
              signatureCount := 0
              documentLines
              keptBlocks := snapshot.keptBlocks + 1 }
          block := some ⟨snapshot.keptBlocks, closing, heading, lines⟩ }
  | drops (hpending : snapshot.hasPending = true) :
      snapshot.Closes { snapshot := snapshot.discard }

namespace Snapshot

theorem Balanced.closes_commit {snapshot : Snapshot} (h : snapshot.Balanced)
    (hpending : snapshot.hasPending = true) (settings : Settings) {closing : Closing}
    (hclosing : closing ≠ .discarded) (heading : Option Text) :
    snapshot.Closes (snapshot.commit settings closing heading) := by
  obtain ⟨documentLines, hsnapshot⟩ := h.commit_snapshot settings closing heading
  have hblock := h.commit_block settings closing heading
  have hlines : committedLines heading
      (snapshot.block ++ Signature.tableLines settings snapshot.signatures) ≠ [] := by
    have hne := (h.hasPending_iff settings).mp hpending
    rcases heading with _ | _ | ⟨c, heading⟩
    · exact hne
    · exact hne
    · exact List.cons_ne_nil _ _
  have hstep := Closes.keeps documentLines closing heading _ hpending hclosing hlines
  rwa [← hsnapshot, ← hblock] at hstep

theorem Balanced.closes_close {snapshot : Snapshot} (h : snapshot.Balanced) (settings : Settings)
    (line : Text) : snapshot.Closes (snapshot.close settings line) := by
  unfold close
  by_cases hpending : snapshot.hasPending = true
  · rw [if_pos hpending]
    cases CodeLine.classify line with
    | blank => exact h.closes_commit hpending settings (by decide) _
    | boundFunction name params => exact h.closes_commit hpending settings (by decide) _
    | namedFunction name params => exact h.closes_commit hpending settings (by decide) _
    | other => exact .drops hpending
  · rw [if_neg hpending]
    exact .empty (by simpa using hpending)

end Snapshot

namespace Run

variable {α : Type} {body? : α → Option Text}

def endsOpen (body? : α → Option Text) : (isOpen : Bool) → List α → Bool
  | isOpen, [] => isOpen
  | _, item :: items => endsOpen body? (body? item).isSome items

theorem endsOpen_concat (isOpen : Bool) (items : List α) (item : α) :
    endsOpen body? isOpen (items ++ [item]) = (body? item).isSome := by
  induction items generalizing isOpen with
  | nil => rfl
  | cons first items ih => exact ih _

/-- One more item ends a run exactly if it has no body and comes right after one. -/
theorem countP_isEnded_allAfter (body? : α → Option Text) (opened : List Text) (items : List α)
    (item : α) :
    (allAfter body? opened (items ++ [item])).countP isEnded =
      (allAfter body? opened items).countP isEnded +
        if endsOpen body? (!opened.isEmpty) items ∧ body? item = none then 1 else 0 := by
  induction items generalizing opened with
  | nil =>
    cases h : body? item with
    | some body =>
      rw [List.nil_append, allAfter_cons_of_some h]
      simp [allAfter_nil, apply_ite, isEnded]
    | none =>
      rw [List.nil_append, allAfter_cons_of_none h]
      by_cases hopened : opened = [] <;>
        simp [allAfter_nil, hopened, isEnded, endsOpen, all]
  | cons first items ih =>
    cases h : body? first with
    | some body =>
      have hopen : (opened ++ [body]).isEmpty = false := by cases opened <;> rfl
      have hrest := ih (opened ++ [body])
      rw [hopen] at hrest
      rw [List.cons_append, allAfter_cons_of_some h, allAfter_cons_of_some h, hrest]
      simp [endsOpen, h]
    | none =>
      have hrest := ih []
      simp only [allAfter, if_true] at hrest
      rw [List.cons_append, allAfter_cons_of_none h, allAfter_cons_of_none h,
        List.countP_append, List.countP_append, hrest, Nat.add_assoc]
      simp [endsOpen, h]

theorem countP_isEnded_concat (body? : α → Option Text) (items : List α) (item : α) :
    (all body? (items ++ [item])).countP isEnded =
      (all body? items).countP isEnded +
        if endsOpen body? false items ∧ body? item = none then 1 else 0 := by
  have h := countP_isEnded_allAfter body? [] items item
  simpa only [allAfter, if_true, List.isEmpty_nil, Bool.not_true] using h

end Run

/-- What calls establish. Whether a run is open is known from the last call alone. -/
structure Sound (calls : List Call) (session : Session) : Prop where
  balanced : session.snapshot.Balanced
  outside : session.snapshot.status = .outOfBlock → session.snapshot.hasPending = false
  untouched : session.snapshot.status = .inBlock → session.snapshot.hasPending = false →
    calls = []
  isOpen : Run.endsOpen Call.body? false calls = session.snapshot.hasPending
  depth_pos : 1 ≤ session.snapshot.depth
  processed : session.snapshot.processedLines = calls.countP Call.isLine
  kept : session.snapshot.keptBlocks = session.blocks.length
  accounted : session.snapshot.keptBlocks + session.snapshot.discardedBlocks =
    (Run.all Call.body? calls).countP Run.isEnded
  index : session.blocks.map Block.index = List.range session.blocks.length
  shape : ∀ block ∈ session.blocks, block.closing ≠ .discarded ∧ block.lines ≠ []

namespace Sound

variable {calls : List Call} {snapshot : Snapshot} {blocks : List Block}

theorem initial : Sound [] {} where
  balanced := ⟨rfl, rfl⟩
  outside := by simp
  untouched _ _ := rfl
  isOpen := rfl
  depth_pos := le_rfl
  processed := rfl
  kept := rfl
  accounted := by simp [Run.all]
  index := rfl
  shape := by simp

/-- A comment line leads into a run or on in it. -/
theorem feed (h : Sound calls ⟨snapshot, blocks⟩) {settings : Settings} {text body : Text}
    (hbody : Comment.body? text = some body) :
    Sound (calls ++ [.line settings text])
      ⟨({ snapshot.counted with status := .inBlock } : Snapshot).feed settings body, blocks⟩ := by
  have hopened : ({ snapshot.counted with status := .inBlock } : Snapshot).Balanced :=
    ⟨h.balanced.blockSize, h.balanced.signatureCount⟩
  have hbalanced := hopened.feed settings body
  have hpending := hopened.hasPending_feed settings body
  have hcall : (Call.line settings text).body? = some body := hbody
  obtain ⟨_, _, _, _, hframe⟩ :=
    Snapshot.feed_frame settings { snapshot.counted with status := .inBlock } body
  rw [hframe] at hbalanced hpending ⊢
  constructor
  · exact hbalanced
  · intro hstatus
    cases hstatus
  · intro _ hnone
    rw [hpending] at hnone
    cases hnone
  · rw [Run.endsOpen_concat, hcall]
    exact hpending.symm
  · cases hlevel : Body.level? body with
    | none => exact h.depth_pos
    | some level => exact Body.level?_pos hlevel
  · simpa [Snapshot.counted, Call.isLine] using h.processed
  · exact h.kept
  · rw [Run.countP_isEnded_concat, hcall]
    simpa [Snapshot.counted] using h.accounted
  · exact h.index
  · exact h.shape

/-- Outside a run a call without a body does nothing but count. -/
theorem skip (h : Sound calls ⟨snapshot, blocks⟩) (hstatus : snapshot.status = .outOfBlock)
    {call : Call} (hcall : call.body? = none) :
    Sound (calls ++ [call])
      ⟨{ snapshot with processedLines := (calls ++ [call]).countP Call.isLine }, blocks⟩ := by
  have hpending : snapshot.hasPending = false := h.outside hstatus
  have hopen : Run.endsOpen Call.body? false calls = false := h.isOpen.trans hpending
  constructor
  · exact ⟨h.balanced.blockSize, h.balanced.signatureCount⟩
  · exact fun _ => hpending
  · intro hin
    rw [hstatus] at hin
    cases hin
  · rw [Run.endsOpen_concat, hcall]
    exact hpending.symm
  · exact h.depth_pos
  · rfl
  · exact h.kept
  · rw [Run.countP_isEnded_concat, hopen]
    simpa using h.accounted
  · exact h.index
  · exact h.shape

/-- The end of a run that holds something. The run is accounted for once, whatever happens to it. -/
theorem close_pending (h : Sound calls ⟨snapshot, blocks⟩) (hpending : snapshot.hasPending = true)
    {call : Call} (hcall : call.body? = none) {added : List Block}
    {documentLines keptBlocks discardedBlocks : ℕ}
    (hkept : keptBlocks = snapshot.keptBlocks + added.length)
    (hsum : keptBlocks + discardedBlocks = snapshot.keptBlocks + snapshot.discardedBlocks + 1)
    (hindex : (blocks ++ added).map Block.index = List.range (blocks ++ added).length)
    (hshape : ∀ block ∈ added, block.closing ≠ .discarded ∧ block.lines ≠ []) :
    Sound (calls ++ [call])
      ⟨{ snapshot with
          status := .outOfBlock
          blockTail := .empty
          blockSize := 0
          signatureTail := .empty
          signatureCount := 0
          documentLines
          processedLines := (calls ++ [call]).countP Call.isLine
          keptBlocks
          discardedBlocks }, blocks ++ added⟩ := by
  have hopen : Run.endsOpen Call.body? false calls = true := h.isOpen.trans hpending
  constructor
  · exact ⟨rfl, rfl⟩
  · exact fun _ => rfl
  · intro hin
    cases hin
  · rw [Run.endsOpen_concat, hcall]
    rfl
  · exact h.depth_pos
  · rfl
  · have hbefore : snapshot.keptBlocks = blocks.length := h.kept
    simp [hkept, hbefore]
  · rw [Run.countP_isEnded_concat, hopen, hcall, ← h.accounted]
    simpa using hsum
  · exact hindex
  · intro block hmem
    rcases List.mem_append.mp hmem with hmem | hmem
    · exact h.shape block hmem
    · exact hshape block hmem

/-- In a run a call without a body closes it. Only the run that is open before any call can hold
nothing. -/
theorem close (h : Sound calls ⟨snapshot, blocks⟩) {call : Call} (hcall : call.body? = none)
    {step : Step}
    (hstep : Snapshot.Closes
      { snapshot with processedLines := (calls ++ [call]).countP Call.isLine } step) :
    Sound (calls ++ [call]) ⟨step.snapshot, blocks ++ step.block.toList⟩ := by
  have hindex : blocks.map Block.index = List.range blocks.length := h.index
  cases hstep with
  | empty hpending =>
    have hnone : snapshot.hasPending = false := hpending
    have hopen : Run.endsOpen Call.body? false calls = false := h.isOpen.trans hnone
    constructor
    · exact ⟨h.balanced.blockSize, h.balanced.signatureCount⟩
    · exact fun _ => hnone
    · intro hin
      cases hin
    · rw [Run.endsOpen_concat, hcall]
      exact hnone.symm
    · exact h.depth_pos
    · rfl
    · simpa using h.kept
    · rw [Run.countP_isEnded_concat, hopen]
      simpa using h.accounted
    · simpa using hindex
    · simpa using h.shape
  | keeps documentLines closing heading lines hpending hclosing hlines =>
    have hkept : snapshot.keptBlocks = blocks.length := h.kept
    refine h.close_pending hpending hcall rfl ?_ ?_ ?_
    · dsimp only
      omega
    · simp [hindex, hkept, List.range_succ]
    · intro block hmem
      obtain rfl : block = ⟨snapshot.keptBlocks, closing, heading, lines⟩ := by simpa using hmem
      exact ⟨hclosing, hlines⟩
  | drops hpending =>
    refine h.close_pending hpending hcall rfl ?_ ?_ ?_
    · dsimp only
      omega
    · simpa using hindex
    · simp

theorem call_comment (h : Sound calls ⟨snapshot, blocks⟩) {settings : Settings} {text body : Text}
    (hbody : Comment.body? text = some body) :
    Sound (calls ++ [.line settings text])
      (Session.call ⟨snapshot, blocks⟩ (.line settings text)) := by
  have hopened : snapshot.step settings text = { snapshot :=
      ({ snapshot.counted with status := .inBlock } : Snapshot).feed settings body } := by
    cases hstatus : snapshot.status with
    | inBlock =>
      rw [Snapshot.step_comment_inBlock hbody hstatus, ← hstatus]
      rfl
    | outOfBlock =>
      obtain ⟨⟨htail, hsize⟩, -⟩ := h.balanced.eq_empty_of_not_hasPending (h.outside hstatus)
      rw [Snapshot.step_comment_outOfBlock hbody hstatus, Snapshot.openBlock, ← htail, ← hsize]
      rfl
  simpa [Session.call, Call.apply, hopened] using h.feed hbody

theorem call_code (h : Sound calls ⟨snapshot, blocks⟩) {call : Call} (hcall : call.body? = none) :
    Sound (calls ++ [call]) (Session.call ⟨snapshot, blocks⟩ call) := by
  have hprocessed : snapshot.processedLines = calls.countP Call.isLine := h.processed
  have hbalanced : Snapshot.Balanced
      { snapshot with processedLines := (calls ++ [call]).countP Call.isLine } :=
    ⟨h.balanced.blockSize, h.balanced.signatureCount⟩
  cases hstatus : snapshot.status with
  | inBlock =>
    have hclose : ∃ settings line, call.apply snapshot =
        Snapshot.close settings
          { snapshot with processedLines := (calls ++ [call]).countP Call.isLine } line := by
      cases call with
      | line settings text =>
        refine ⟨settings, text, ?_⟩
        rw [Call.apply, Snapshot.step_code_inBlock hcall hstatus]
        simp [Snapshot.counted, hprocessed, Call.isLine]
      | finish settings =>
        refine ⟨settings, [], ?_⟩
        rw [Call.apply, Snapshot.finish_inBlock hstatus]
        simp [← hprocessed, Call.isLine]
    obtain ⟨settings, line, hclose⟩ := hclose
    have hsound := h.close hcall (hbalanced.closes_close settings line)
    rwa [← hclose] at hsound
  | outOfBlock =>
    have hskip : call.apply snapshot = { snapshot :=
        { snapshot with processedLines := (calls ++ [call]).countP Call.isLine } } := by
      cases call with
      | line settings text =>
        rw [Call.apply, Snapshot.step_code_outOfBlock hcall hstatus]
        simp [Snapshot.counted, hprocessed, Call.isLine]
      | finish settings =>
        rw [Call.apply, Snapshot.finish_outOfBlock hstatus]
        simp [← hprocessed, Call.isLine]
    simpa [Session.call, hskip] using h.skip hstatus hcall

theorem call {session : Session} (h : Sound calls session) (call : Call) :
    Sound (calls ++ [call]) (session.call call) := by
  cases hcall : call.body? with
  | none => exact h.call_code hcall
  | some body =>
    cases call with
    | line settings text => exact h.call_comment hcall
    | finish settings => cases hcall

theorem foldl {session : Session} (h : Sound calls session) (more : List Call) :
    Sound (calls ++ more) (more.foldl Session.call session) := by
  induction more generalizing calls session with
  | nil => simpa using h
  | cons call more ih => simpa using ih (h.call call)

end Sound

theorem sound_after (calls : List Call) : Sound calls (Session.after calls) :=
  Sound.initial.foldl calls

/-- A run that is opened without pending signatures holds nothing but its first body. -/
theorem Snapshot.openBlock_of_signatureTail_eq_empty {snapshot : Snapshot}
    (htail : snapshot.signatureTail = .empty) (hcount : snapshot.signatureCount = 0)
    (settings : Settings) (body : Text) :
    (snapshot.openBlock settings body).signatures = (Signature.ofBody? settings body).toList ∧
      (snapshot.openBlock settings body).block =
        if Body.isSignature body then [] else [Body.content body] := by
  by_cases hbody : Body.isSignature body = true
  · obtain ⟨signature, hsignature⟩ := Body.exists_ofBody? settings hbody
    rw [openBlock, feed_of_signature hsignature]
    simp [addSignature, block, signatures, htail, hsignature, hbody]
  · have hnone : Signature.ofBody? settings body = none := by
      simpa [Signature.ofBody?, Body.isSignature] using hbody
    rw [openBlock, feed_of_content (by simpa using hbody)]
    simp [flushSignatures, hcount, addLine, block, signatures, htail, hnone, hbody]

/-- Every snapshot that lines and ends of the source can lead to, in any order and under any
settings: outside a run nothing is pending, so a new run starts with its first body alone; inside
a run something is pending, except before the first call; the nesting level is positive; the lines
are counted; the kept blocks are numbered as they were given back; every ended run of comments was
either kept or dropped; and no block was given back empty or as a dropped one. -/
theorem reachable_snapshot_facts (calls : List Call) :
    let session := Session.after calls
    let snapshot := session.snapshot
    (snapshot.status = .outOfBlock →
      (snapshot.block = [] ∧ snapshot.blockSize = 0) ∧
        (snapshot.signatures = [] ∧ snapshot.signatureCount = 0) ∧
        ∀ settings body,
          (snapshot.openBlock settings body).signatures =
              (Signature.ofBody? settings body).toList ∧
            (snapshot.openBlock settings body).block =
              if Body.isSignature body then [] else [Body.content body]) ∧
    ((snapshot.status = .inBlock ∧ snapshot.hasPending = false) ↔ calls = []) ∧
    1 ≤ snapshot.depth ∧
    snapshot.processedLines = calls.countP Call.isLine ∧
    (snapshot.keptBlocks = session.blocks.length ∧
      ∀ (i : ℕ) (block : Block), session.blocks[i]? = some block → block.index = i) ∧
    snapshot.keptBlocks + snapshot.discardedBlocks =
      (Run.all Call.body? calls).countP Run.isEnded ∧
    ∀ block ∈ session.blocks, block.closing ≠ .discarded ∧ block.lines ≠ [] := by
  intro session snapshot
  have h : Sound calls session := sound_after calls
  refine ⟨?_, ?_, h.depth_pos, h.processed, ⟨h.kept, ?_⟩, h.accounted, h.shape⟩
  · intro hstatus
    obtain ⟨⟨hblock, hsize⟩, hsignatures, hcount⟩ :=
      h.balanced.eq_empty_of_not_hasPending (h.outside hstatus)
    exact ⟨⟨congrArg Chain.items hblock, hsize⟩, ⟨congrArg Chain.items hsignatures, hcount⟩,
      Snapshot.openBlock_of_signatureTail_eq_empty hsignatures hcount⟩
  · constructor
    · rintro ⟨hstatus, hpending⟩
      exact h.untouched hstatus hpending
    · intro hcalls
      subst hcalls
      exact ⟨rfl, rfl⟩
  · intro i block hblock
    have hbound := (List.getElem?_eq_some_iff.mp hblock).1
    have hindex : (session.blocks.map Block.index)[i]? =
        (List.range session.blocks.length)[i]? := by
      rw [h.index]
    simpa [hblock, List.getElem?_range hbound] using hindex

end SlashDoc
