import Mathlib.Tactic.MkIffOfInductiveProp
import SlashDoc.Proofs.DocumentLines
import SlashDoc.Proofs.LineBreaks
import SlashDoc.Proofs.TextPieces

/-!
# Comments that are written and read back

Bodies are written behind comment markers, block by block, with an empty line after each block. What
is extracted from such a text are the bodies, however the markers were chosen. A body may start with
slashes or blanks, because the marker always ends in one blank of its own. Bodies that would be
rendered in a special way are left out here.
-/
namespace SlashDoc

open Text Line

variable {settings : Settings}

namespace Comment

def isInlineBlank (c : Char) : Bool :=
  isBlank c && !isBreak c

/-- The parts of a comment line with exactly one blank behind its slashes, none of which breaks the
line. -/
@[mk_iff]
structure Written (comment : Comment) : Prop where
  indent : comment.indent.all isInlineBlank = true
  slashes : 2 ≤ comment.slashes.length ∧ comment.slashes.all (· == '/') = true
  gap : comment.gap.length = 1 ∧ comment.gap.all isInlineBlank = true
  body : '\r' ∉ comment.body ∧ '\n' ∉ comment.body

instance (comment : Comment) : Decidable comment.Written :=
  decidable_of_iff _ (written_iff comment).symm

def writeBlock (block : List Comment) : Text :=
  block.flatMap (fun comment => comment.text ++ ['\n']) ++ ['\n']

def writeBlocks (blocks : List (List Comment)) : Text :=
  blocks.flatMap writeBlock

theorem blank_of_all {text : Text} (h : text.all isInlineBlank = true) {c : Char} (hc : c ∈ text) :
    isBlank c = true ∧ isBreak c = false := by
  have hinline := List.all_eq_true.mp h c hc
  simpa [isInlineBlank] using hinline

/-- Reading a written comment line gives back the parts, each of them as it was. -/
theorem Written.ofLine?_text {comment : Comment} (h : comment.Written) :
    ofLine? comment.text = some comment := by
  obtain ⟨indent, slashes, gap, body⟩ := comment
  obtain ⟨hlength, hslashes⟩ : 2 ≤ slashes.length ∧ slashes.all (· == '/') = true := h.slashes
  obtain ⟨c, rfl⟩ : ∃ c, gap = [c] := List.length_eq_one_iff.mp h.gap.1
  have hblank : isBlank c = true := (blank_of_all h.gap.2 (List.mem_singleton_self c)).1
  have hslash : isBlank '/' = false := by decide
  have hgap : (c == '/') = false := by
    have hne : c ≠ '/' := by
      rintro rfl
      rw [hslash] at hblank
      cases hblank
    simpa using hne
  have htext : (⟨indent, slashes, [c], body⟩ : Comment).text =
      indent ++ (slashes ++ c :: body) := by simp [text]
  -- each run ends where the next part begins, because blanks and slashes are told apart
  have hindent : MaximalRun isBlank indent (slashes ++ c :: body) := by
    have hall : ∀ d ∈ indent, isBlank d = true := fun d hd => (blank_of_all h.indent hd).1
    rcases slashes with _ | ⟨first, slashes⟩
    · simp at hlength
    · have hfirst := List.all_eq_true.mp hslashes first List.mem_cons_self
      obtain rfl : first = '/' := by simpa using hfirst
      exact maximalRun_of_head? hall rfl hslash
  have hrun : MaximalRun (· == '/') slashes (c :: body) :=
    maximalRun_of_head? (List.all_eq_true.mp hslashes) rfl hgap
  have hbody : singleLine? body = some body := singleLine?_eq_some_iff.mpr ⟨h.body.2, .inl rfl⟩
  simp [ofLine?, hindent.takeWhile_eq htext, hindent.dropWhile_eq htext, hrun.takeWhile_eq rfl,
    hrun.dropWhile_eq rfl, splitGap, hblank, hbody, Nat.not_lt.mpr hlength]

theorem Written.body?_text {comment : Comment} (h : comment.Written) :
    body? comment.text = some comment.body := by
  rw [body?, h.ofLine?_text]
  rfl

theorem Written.breakFree_text {comment : Comment} (h : comment.Written) :
    BreakFree comment.text := by
  intro c hc
  simp only [text, List.mem_append] at hc
  rcases hc with ((hc | hc) | hc) | hc
  · exact (blank_of_all h.indent hc).2
  · obtain rfl : c = '/' := by simpa using List.all_eq_true.mp h.slashes.2 c hc
    decide
  · exact (blank_of_all h.gap.2 hc).2
  · exact breakFree_iff.mpr h.body c hc

end Comment

theorem Line.split_append_feed {line : Text} (h : BreakFree line) (rest : Text) :
    split (line ++ '\n' :: rest) = line :: split rest :=
  split_breakFree_append h (split_cons (by simp))

namespace Comment

/-- A written block gives its own lines and an empty one; the lines of the rest follow. -/
theorem split_writeBlock {block : List Comment} (h : ∀ comment ∈ block, comment.Written)
    (rest : Text) :
    split (writeBlock block ++ rest) = block.map Comment.text ++ [] :: split rest := by
  induction block with
  | nil => exact split_cons (by simp)
  | cons comment block ih =>
    have hline := (h comment List.mem_cons_self).breakFree_text
    have hblock := ih fun other hother => h other (List.mem_cons_of_mem comment hother)
    have htext : writeBlock (comment :: block) ++ rest =
        comment.text ++ '\n' :: (writeBlock block ++ rest) := by simp [writeBlock]
    rw [htext, Line.split_append_feed hline, hblock]
    rfl

end Comment

namespace Run

variable {α : Type} {body? : α → Option Text}

theorem allAfter_append_of_some {β : Type} {item : β → α} {body : β → Text} {items : List β}
    (h : ∀ x ∈ items, body? (item x) = some (body x)) (opened : List Text) (rest : List α) :
    allAfter body? opened (items.map item ++ rest) =
      allAfter body? (opened ++ items.map body) rest := by
  induction items generalizing opened with
  | nil => simp
  | cons x items ih =>
    have hrest := ih (fun y hy => h y (List.mem_cons_of_mem x hy)) (opened ++ [body x])
    rw [List.map_cons, List.cons_append, allAfter_cons_of_some (h x List.mem_cons_self), hrest]
    simp

/-- Items with bodies and one without make up one whole run. -/
theorem all_append_of_some {β : Type} {item : β → α} {body : β → Text} {items : List β}
    (hne : items ≠ []) (h : ∀ x ∈ items, body? (item x) = some (body x)) {next : α}
    (hnext : body? next = none) (rest : List α) :
    all body? (items.map item ++ next :: rest) =
      ⟨items.map body, some next⟩ :: all body? rest := by
  have hrun := allAfter_append_of_some h [] (next :: rest)
  rw [allAfter_cons_of_none hnext, allAfter, if_pos rfl] at hrun
  simpa [hne] using hrun

end Run

namespace Body

@[mk_iff]
structure Plain (body : Text) : Prop where
  named : NamedSignature.ofBody? body = none
  unnamed : UnnamedSignature.ofBody? body = none
  parameter : Parameter.ofBody? body = none

instance (body : Text) : Decidable (Plain body) :=
  decidable_of_iff _ (plain_iff body).symm

theorem layout_of_plain {bodies : List Text} (h : ∀ body ∈ bodies, Plain body) :
    layout settings bodies = bodies := by
  induction bodies with
  | nil => simp [layout]
  | cons body bodies ih =>
    obtain ⟨hnamed, hunnamed, hparameter⟩ := h body List.mem_cons_self
    have hsignature : isSignature body = false := by
      simp [isSignature, signature?, hnamed, hunnamed]
    have hcontent : content body = body := by simp [content, hparameter]
    have hrest := ih fun other hother => h other (List.mem_cons_of_mem body hother)
    rw [layout, hsignature, hcontent, hrest]
    rfl

end Body

namespace Run

def ofBlock (block : List Comment) : Run Text :=
  ⟨block.map Comment.body, some []⟩

theorem all_writeBlocks {blocks : List (List Comment)} (hne : ∀ block ∈ blocks, block ≠ [])
    (h : ∀ block ∈ blocks, ∀ comment ∈ block, comment.Written) :
    all Comment.body? (split (Comment.writeBlocks blocks)) = blocks.map ofBlock := by
  induction blocks with
  | nil => simp [Comment.writeBlocks, split, all, Comment.body?, Comment.ofLine?]
  | cons block blocks ih =>
    have hblock := h block List.mem_cons_self
    have hrest := ih (fun other hother => hne other (List.mem_cons_of_mem block hother))
      fun other hother => h other (List.mem_cons_of_mem block hother)
    have hbodies : ∀ comment ∈ block, Comment.body? comment.text = some comment.body :=
      fun comment hcomment => (hblock comment hcomment).body?_text
    rw [Comment.writeBlocks, List.flatMap_cons, Comment.split_writeBlock hblock,
      all_append_of_some (hne block List.mem_cons_self) hbodies (by rfl)]
    rw [Comment.writeBlocks] at hrest
    rw [hrest]
    rfl

/-- Runs before an empty line are all kept, so they are numbered without gaps. -/
theorem blocksAfter_ofBlock {blocks : List (List Comment)}
    (h : ∀ block ∈ blocks, ∀ comment ∈ block, Body.Plain comment.body)
    {earlier : List (Run Text)} (hkept : earlier.countP isKept = earlier.length) :
    blocksAfter settings earlier (blocks.map ofBlock) =
      blocks.mapIdx fun index block =>
        ⟨earlier.length + index, .blankLine, none, block.map Comment.body⟩ := by
  induction blocks generalizing earlier with
  | nil => rfl
  | cons block blocks ih =>
    have hlayout : Body.layout settings (block.map Comment.body) = block.map Comment.body := by
      apply Body.layout_of_plain
      intro body hbody
      obtain ⟨comment, hcomment, rfl⟩ := List.mem_map.mp hbody
      exact h block List.mem_cons_self comment hcomment
    have hblock : (ofBlock block).block? settings earlier =
        some ⟨earlier.length, .blankLine, none, block.map Comment.body⟩ := by
      simp [block?, ofBlock, line, isBlankText, hlayout, hkept]
    have hlater : (earlier ++ [ofBlock block]).countP isKept =
        (earlier ++ [ofBlock block]).length := by
      simp [List.countP_append, hkept, isKept, ofBlock, line, isBlankText]
    have hrest := ih (fun other hother => h other (List.mem_cons_of_mem block hother)) hlater
    rw [List.map_cons, blocksAfter, hblock, hrest, List.mapIdx_cons]
    simp [Nat.add_assoc, Nat.add_comm 1]

end Run

/-- Blocks of plain bodies that are written behind comment markers, with an empty line after each
block, are extracted as they were, whatever the markers look like. -/
theorem written_comments_read_back (settings : Settings) {blocks : List (List Comment)}
    (hblocks : ∀ block ∈ blocks, block ≠ [])
    (hwritten : ∀ block ∈ blocks, ∀ comment ∈ block, comment.Written)
    (hplain : ∀ block ∈ blocks, ∀ comment ∈ block, Body.Plain comment.body) :
    extractBlocks settings (Comment.writeBlocks blocks) =
        blocks.mapIdx (fun index block =>
          ⟨index, .blankLine, none, block.map Comment.body⟩) ∧
      extractDocument settings (Comment.writeBlocks blocks) =
        unlines (List.intercalate [[]] (blocks.map fun block => block.map Comment.body)) := by
  have hextracted : extractBlocks settings (Comment.writeBlocks blocks) =
      blocks.mapIdx (fun index block => ⟨index, .blankLine, none, block.map Comment.body⟩) := by
    have hruns : extractBlocks settings (Comment.writeBlocks blocks) =
        [] ++ Run.blocksAfter settings [] (Run.allAfter Comment.body? [] _) :=
      (Run.follows_initial settings).blocks_finish (split (Comment.writeBlocks blocks))
    rw [hruns, Run.allAfter, if_pos rfl, Run.all_writeBlocks hblocks hwritten,
      Run.blocksAfter_ofBlock hplain rfl]
    simp
  refine ⟨hextracted, ?_⟩
  have hlines : ∀ block ∈ extractBlocks settings (Comment.writeBlocks blocks),
      block.lines ≠ [] := by
    rw [hextracted]
    intro block hblock
    obtain ⟨i, hi, rfl⟩ := List.mem_mapIdx.mp hblock
    simpa using hblocks _ (List.getElem_mem hi)
  have hdocument : (extractBlocks settings (Comment.writeBlocks blocks)).map Block.lines =
      blocks.map fun block => block.map Comment.body := by
    rw [hextracted]
    apply List.ext_getElem
    · simp
    · simp
  change unlines (Block.document (extractBlocks settings _)) = _
  rw [Block.document_eq_intercalate hlines, hdocument]

/-- Slashes and blanks that belong to a body stay there, and so does an empty body. -/
theorem written_comments_read_back_verbatim :
    let blocks : List (List Comment) :=
      [[⟨"\t".toList, "//".toList, " ".toList, "// # a".toList⟩,
        ⟨[], "////".toList, "\t".toList, []⟩],
       [⟨[], "///".toList, " ".toList, "  b".toList⟩]]
    (∀ block ∈ blocks, block ≠ []) ∧
      (∀ block ∈ blocks, ∀ comment ∈ block, comment.Written ∧ Body.Plain comment.body) ∧
      Comment.writeBlocks blocks = "\t// // # a\n////\t\n\n///   b\n\n".toList ∧
      extractDocument {} (Comment.writeBlocks blocks) = "// # a\n\n\n  b".toList := by
  intro blocks
  have hblocks : ∀ block ∈ blocks, block ≠ [] := by decide
  have hcomments : ∀ block ∈ blocks, ∀ comment ∈ block,
      comment.Written ∧ Body.Plain comment.body := by decide
  refine ⟨hblocks, hcomments, by decide, ?_⟩
  have hread := written_comments_read_back {} hblocks
    (fun block hblock comment hcomment => (hcomments block hblock comment hcomment).1)
    fun block hblock comment hcomment => (hcomments block hblock comment hcomment).2
  rw [hread.2]
  decide

end SlashDoc
