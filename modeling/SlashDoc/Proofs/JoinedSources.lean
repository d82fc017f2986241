import SlashDoc.Proofs.Continuation
import SlashDoc.Proofs.LineAssembly
import SlashDoc.Proofs.NestingLevel

/-!
# Two sources with a blank line between them

A blank line ends whatever stands before it, just as the end of a source does. So two sources with a
blank line between them have the blocks of the first and then those of the second. Only the nesting
level goes over, and it is only seen in the headings of functions.
-/
namespace SlashDoc

open Text

variable {settings : Settings}

theorem Comment.body?_of_isBlankText {line : Text} (h : isBlankText line = true) :
    body? line = none := by
  have hdrop : line.dropWhile isBlank = [] := by
    rw [List.dropWhile_eq_nil_iff]
    simpa [isBlankText] using h
  simp [body?, ofLine?, hdrop]

namespace Snapshot

theorem close_of_isBlankText {line : Text} (h : isBlankText line = true) (settings : Settings)
    (snapshot : Snapshot) : snapshot.close settings line = snapshot.close settings [] := by
  have hline : CodeLine.classify line = .blank := by simp [CodeLine.classify, h]
  have hnil : CodeLine.classify [] = .blank := rfl
  rw [close, close, hline, hnil]

/-- Once a source has ended, ending it again does nothing. -/
theorem finish_finish (settings : Settings) (snapshot : Snapshot) :
    (snapshot.finish settings).snapshot.finish settings =
      { snapshot := (snapshot.finish settings).snapshot } :=
  finish_outOfBlock (finish_status settings snapshot)

/-- A blank line does what the end of the source does. -/
theorem ahead_step_blank {snapshot : Snapshot} (h : snapshot.Balanced)
    (houtside : snapshot.status = .outOfBlock → snapshot.hasPending = false) {blank : Text}
    (hblank : isBlankText blank = true) (settings : Settings) :
    (snapshot.step settings blank).block = (snapshot.finish settings).block ∧
      Ahead 0 0 (snapshot.step settings blank).snapshot (snapshot.finish settings).snapshot := by
  have hbody := Comment.body?_of_isBlankText hblank
  cases hstatus : snapshot.status with
  | inBlock =>
    have hcounted : snapshot.counted =
        snapshot.withPast snapshot.documentLines (snapshot.processedLines + 1) 0 0 := rfl
    obtain ⟨hblock, hahead⟩ :=
      h.ahead_close settings snapshot.documentLines (snapshot.processedLines + 1) 0 0 []
    rw [step_code_inBlock hbody hstatus, finish_inBlock hstatus, close_of_isBlankText hblank,
      hcounted]
    exact ⟨hblock.trans (Option.map_id_apply ..), hahead⟩
  | outOfBlock =>
    rw [step_code_outOfBlock hbody hstatus, finish_outOfBlock hstatus]
    exact ⟨rfl, ahead_withPast h (Or.inr (houtside hstatus)) _ _ 0 0⟩

end Snapshot

namespace Extraction

def ofLinesAt (settings : Settings) (depth : ℕ) (lines : List Text) : Extraction :=
  (feedAll settings { snapshot := { depth } } lines).finish settings

variable (settings : Settings)

theorem ahead_feed_blank {blank : Text} (hblank : isBlankText blank = true) (lines : List Text) :
    Ahead [] 0 ((feedAll settings {} lines).feed settings blank) (ofLines settings lines) := by
  have hsound := sound_feedAll settings lines
  obtain ⟨hblock, hsnapshot⟩ :=
    Snapshot.ahead_step_blank hsound.balanced hsound.outside hblank settings
  refine ⟨hsnapshot, ?_⟩
  rw [feed_blocks, hblock, ofLines, finish_blocks, List.nil_append, List.length_nil,
    Block.map_shift_zero]

theorem ahead_ofLines (lines : List Text) :
    Ahead (ofLines settings lines).blocks (ofLines settings lines).snapshot.discardedBlocks
      (ofLines settings lines)
      { snapshot := { depth := (ofLines settings lines).snapshot.depth } } := by
  have hsound := sound_ofLines settings lines
  exact ahead_of_not_hasPending hsound.balanced
    (hsound.outside (status_ofLines settings lines)) hsound.kept

/-- What comes behind the end of a source is extracted as a source of its own. -/
theorem blocks_feedAll_ofLines (before after : List Text) :
    (((ofLines settings before).feedAll settings after).finish settings).blocks =
      (ofLines settings before).blocks ++
        (ofLinesAt settings (ofLines settings before).snapshot.depth after).blocks.map
          (Block.shift (ofLines settings before).blocks.length) :=
  (((ahead_ofLines settings before).feedAll settings after).finish settings).blocks

theorem blocks_ofLines_blank {blank : Text} (hblank : isBlankText blank = true)
    (before after : List Text) :
    (ofLines settings (before ++ [blank] ++ after)).blocks =
      (((ofLines settings before).feedAll settings after).finish settings).blocks := by
  have hjoined := ((ahead_feed_blank settings hblank before).feedAll settings after).finish settings
  rw [ofLines, feedAll_append, feedAll_append]
  exact hjoined.blocks_eq

end Extraction

namespace Line

theorem mem_of_mem_split {text line : Text} (hline : line ∈ split text) {c : Char} (hc : c ∈ line) :
    c ∈ text := by
  fun_induction split text generalizing line with
  | case1 =>
    obtain rfl : line = [] := by simpa using hline
    cases hc
  | case2 rest ih =>
    rcases List.mem_cons.mp hline with rfl | hline
    · cases hc
    · exact List.mem_cons_of_mem _ (List.mem_cons_of_mem _ (ih hline hc))
  | case3 d rest hpair hb ih =>
    rcases List.mem_cons.mp hline with rfl | hline
    · cases hc
    · exact List.mem_cons_of_mem _ (ih hline hc)
  | case4 d rest hpair hb ih =>
    cases hs : split rest with
    | nil => exact (split_ne_nil rest hs).elim
    | cons first lines =>
      rw [hs] at hline ih
      rcases List.mem_cons.mp hline with rfl | hline
      · rcases List.mem_cons.mp hc with rfl | hc
        · exact List.mem_cons_self
        · exact List.mem_cons_of_mem _ (ih List.mem_cons_self hc)
      · exact List.mem_cons_of_mem _ (ih (List.mem_cons_of_mem _ hline) hc)

/-- The lines of a text with a line feed after it. A carriage return at its end takes the line feed
into its own break, and then one empty line less is seen. -/
theorem split_append_lineFeed (text rest : Text) :
    ∃ lines, lines ≠ [] ∧ split (text ++ '\n' :: rest) = lines ++ split rest ∧
      (split text = lines ∨ split text = lines ++ [[]]) := by
  have hfeed : split ('\n' :: rest) = [] :: split rest := by simp [split, isBreak]
  by_cases hreturn : text.getLast? = some '\r'
  · obtain ⟨front, rfl⟩ := List.getLast?_eq_some_iff.mp hreturn
    obtain ⟨lines, last, hfront⟩ := exists_split_eq_append front
    have hlast : BreakFree last := breakFree_of_mem_split (by rw [hfront]; simp)
    have hpair : split ('\r' :: '\n' :: rest) = [] :: split rest := by simp [split]
    have hlone : split ['\r'] = [] :: [[]] := by simp [split, isBreak]
    refine ⟨lines ++ [last], by simp, ?_, Or.inr ?_⟩
    · rw [List.append_assoc, List.singleton_append, split_append hfront (by simp),
        split_breakFree_append hlast hpair]
      simp
    · rw [split_append hfront (by simp), split_breakFree_append hlast hlone]
      simp
  · obtain ⟨lines, last, htext⟩ := exists_split_eq_append text
    have hlast : BreakFree last := breakFree_of_mem_split (by rw [htext]; simp)
    refine ⟨lines ++ [last], by simp, ?_, Or.inl htext⟩
    rw [split_append htext fun h => (hreturn h).elim, split_breakFree_append hlast hfeed]
    simp

end Line

namespace Extraction

theorem ofLines_concat_blank {blank : Text} (hblank : isBlankText blank = true)
    (lines : List Text) :
    (ofLines settings (lines ++ [blank])).blocks = (ofLines settings lines).blocks ∧
      (ofLines settings (lines ++ [blank])).snapshot.depth =
        (ofLines settings lines).snapshot.depth := by
  have hahead := (ahead_feed_blank settings hblank lines).finish settings
  have hagain : (ofLines settings lines).snapshot.finish settings =
      { snapshot := (ofLines settings lines).snapshot } := Snapshot.finish_finish settings _
  have hconcat : ofLines settings (lines ++ [blank]) =
      ((feedAll settings {} lines).feed settings blank).finish settings := by
    rw [ofLines, feedAll_append]
    rfl
  rw [hconcat]
  constructor
  · rw [hahead.blocks_eq, finish_blocks, hagain]
    exact List.append_nil _
  · rw [hahead.snapshot.depth, finish_snapshot, hagain]

/-- Code in front of a source adds nothing to its blocks. -/
theorem blocks_ofLinesAt_code (depth : ℕ) {code : List Text}
    (hcode : ∀ line ∈ code, Comment.body? line = none) (lines : List Text) :
    (ofLinesAt settings depth (code ++ lines)).blocks =
      (ofLinesAt settings depth lines).blocks := by
  have hsame : Ahead [] 0 { snapshot := { depth } } { snapshot := { depth } } :=
    ⟨⟨⟨rfl, rfl⟩, rfl, Or.inr rfl⟩, rfl⟩
  have hahead := ((hsame.skip rfl settings hcode).feedAll settings lines).finish settings
  rw [ofLinesAt, feedAll_append]
  exact hahead.blocks_eq

/-- The text between two texts may consist of several blank lines, and a line break may reach into
it from the first text. The blocks do not tell. -/
theorem blocks_ofText_joined (settings : Settings) {blank : Text}
    (hblank : isBlankText blank = true) (first second : Text) :
    extractBlocks settings (first ++ '\n' :: (blank ++ '\n' :: second)) =
      extractBlocks settings first ++
        (ofLinesAt settings (ofText settings first).snapshot.depth (Line.split second)).blocks.map
          (Block.shift (extractBlocks settings first).length) := by
  obtain ⟨before, -, hjoined, hfirst⟩ :=
    Line.split_append_lineFeed first (blank ++ '\n' :: second)
  obtain ⟨gap, hgap, hrest, hbetween⟩ := Line.split_append_lineFeed blank second
  have hblanks : ∀ line ∈ gap, isBlankText line = true := by
    intro line hline
    have hmem : line ∈ Line.split blank := by
      rcases hbetween with heq | heq <;> simp [heq, hline]
    rw [isBlankText, List.all_eq_true] at hblank ⊢
    exact fun c hc => hblank c (Line.mem_of_mem_split hmem hc)
  -- the first blank line ends the first text, the others are code in front of the second
  obtain ⟨line, code, rfl⟩ := List.exists_cons_of_ne_nil hgap
  have hcode : ∀ other ∈ code, Comment.body? other = none := fun other hother =>
    Comment.body?_of_isBlankText (hblanks other (List.mem_cons_of_mem line hother))
  have hsame : (ofLines settings (Line.split first)).blocks = (ofLines settings before).blocks ∧
      (ofLines settings (Line.split first)).snapshot.depth =
        (ofLines settings before).snapshot.depth := by
    rcases hfirst with heq | heq
    · rw [heq]
      exact ⟨rfl, rfl⟩
    · rw [heq]
      exact ofLines_concat_blank rfl before
  have hlines : Line.split (first ++ '\n' :: (blank ++ '\n' :: second)) =
      before ++ [line] ++ (code ++ Line.split second) := by
    rw [hjoined, hrest]
    simp
  change (ofLines settings (Line.split _)).blocks = (ofLines settings (Line.split first)).blocks ++
    (ofLinesAt settings (ofLines settings (Line.split first)).snapshot.depth _).blocks.map
      (Block.shift (ofLines settings (Line.split first)).blocks.length)
  rw [hlines, blocks_ofLines_blank settings (hblanks line List.mem_cons_self),
    blocks_feedAll_ofLines, blocks_ofLinesAt_code _ hcode, hsame.1, hsame.2]

/-- Without headings in the second source, or at the first level, nothing goes over. -/
theorem blocks_ofLinesAt_eq {depth : ℕ} {lines : List Text}
    (h : (∀ block ∈ (ofLines settings lines).blocks, block.heading = none) ∨ depth = 1) :
    (ofLinesAt settings depth lines).blocks = (ofLines settings lines).blocks := by
  rcases h with hheading | rfl
  · exact blocks_of_levelApart lines ⟨depth, rfl⟩ rfl hheading
  · rfl

end Extraction

theorem Block.document_map_shift (count : ℕ) (blocks : List Block) :
    Block.document (blocks.map (Block.shift count)) = Block.document blocks := by
  rw [Block.document, List.foldl_map]
  rfl

theorem Text.unlines_append {first second : List Text} (hfirst : first ≠ [])
    (hsecond : second ≠ []) :
    unlines (first ++ second) = unlines first ++ '\n' :: unlines second := by
  rw [unlines, intercalate_append _ hfirst hsecond, List.append_assoc]
  rfl

theorem Block.unlines_document_append {first second : List Block} (hfirst : first ≠ [])
    (hsecond : second ≠ []) (hlines : ∀ block ∈ first ++ second, block.lines ≠ []) :
    unlines (Block.document (first ++ second)) =
      unlines (Block.document first) ++ "\n\n".toList ++ unlines (Block.document second) := by
  have hfront : ∀ block ∈ first, block.lines ≠ [] := fun block hblock =>
    hlines block (List.mem_append_left _ hblock)
  have hback : ∀ block ∈ second, block.lines ≠ [] := fun block hblock =>
    hlines block (List.mem_append_right _ hblock)
  have happend : Block.document (first ++ second) =
      Block.document first ++ ([[]] ++ Block.document second) := by
    rw [document_eq_intercalate hlines, document_eq_intercalate hfront,
      document_eq_intercalate hback, List.map_append,
      intercalate_append _ (by simpa using hfirst) (by simpa using hsecond), List.append_assoc]
  have hdocument : Block.document first ≠ [] := by rwa [Ne, document_eq_nil_iff hfront]
  have hdocument' : Block.document second ≠ [] := by rwa [Ne, document_eq_nil_iff hback]
  rw [happend, unlines_append hdocument (by simp), unlines_append (by simp) hdocument']
  simp [unlines]

theorem extractDocument_joined {blank first second : Text} (hblank : isBlankText blank = true)
    (hfirst : extractBlocks settings first ≠ []) (hsecond : extractBlocks settings second ≠ [])
    (hlevel : (∀ block ∈ extractBlocks settings second, block.heading = none) ∨
      (Extraction.ofText settings first).snapshot.depth = 1) :
    extractDocument settings (first ++ '\n' :: (blank ++ '\n' :: second)) =
      extractDocument settings first ++ "\n\n".toList ++ extractDocument settings second := by
  have hblocks : extractBlocks settings (first ++ '\n' :: (blank ++ '\n' :: second)) =
      extractBlocks settings first ++ (extractBlocks settings second).map
        (Block.shift (extractBlocks settings first).length) := by
    rw [Extraction.blocks_ofText_joined settings hblank, Extraction.blocks_ofLinesAt_eq hlevel]
    rfl
  have hlines : ∀ block ∈ extractBlocks settings (first ++ '\n' :: (blank ++ '\n' :: second)),
      block.lines ≠ [] := fun block hblock =>
    ((Extraction.sound_ofLines settings _).shape block hblock).2
  rw [hblocks] at hlines
  have hdocument := Block.unlines_document_append hfirst (by simpa using hsecond) hlines
  rw [← hblocks, Block.document_map_shift] at hdocument
  exact hdocument

/-- A blank line between two sources, or the end of the source in its place, leaves the blocks of
both, apart from the numbers and the nesting level at which the second one starts; and a source that
has ended can be ended again without effect. So if the second source has no headings of functions,
or the first one leaves the first level, the documents of two texts that both have blocks stand one
after the other with an empty line between them. -/
theorem blank_line_separates_sources (settings : Settings) (before after : List Text) {blank : Text}
    (hblank : isBlankText blank = true) :
    let first := Extraction.ofLines settings before
    let second := Extraction.ofLinesAt settings first.snapshot.depth after
    let blocks := first.blocks ++ second.blocks.map (Block.shift first.blocks.length)
    (Extraction.ofLines settings (before ++ [blank] ++ after)).blocks = blocks ∧
      ((first.feedAll settings after).finish settings).blocks = blocks ∧
      (∀ snapshot : Snapshot, (snapshot.finish settings).snapshot.finish settings =
        { snapshot := (snapshot.finish settings).snapshot }) ∧
      (extractBlocks settings (unlines before) ≠ [] → extractBlocks settings (unlines after) ≠ [] →
        ((∀ block ∈ extractBlocks settings (unlines after), block.heading = none) ∨
          (Extraction.ofText settings (unlines before)).snapshot.depth = 1) →
        extractDocument settings (unlines (before ++ [blank] ++ after)) =
          extractDocument settings (unlines before) ++ "\n\n".toList ++
            extractDocument settings (unlines after)) := by
  intro first second blocks
  have hend := Extraction.blocks_feedAll_ofLines settings before after
  refine ⟨?_, hend, Snapshot.finish_finish settings, ?_⟩
  · exact (Extraction.blocks_ofLines_blank settings hblank before after).trans hend
  · intro hbefore hafter hlevel
    have hnil : extractBlocks settings (unlines []) = [] := rfl
    have hfront : before ≠ [] := by
      rintro rfl
      exact hbefore hnil
    have hback : after ≠ [] := by
      rintro rfl
      exact hafter hnil
    have htext : unlines (before ++ [blank] ++ after) =
        unlines before ++ '\n' :: (blank ++ '\n' :: unlines after) := by
      rw [List.append_assoc, unlines_append hfront (by simp), unlines_append (by simp) hback]
      simp [unlines]
    rw [htext]
    exact extractDocument_joined hblank hbefore hafter hlevel

/-- Two documented functions at the first level. -/
theorem blank_line_separates_functions :
    let before := ["// # a", "f = function(b)"].map String.toList
    let after := ["// c", "function d(e)"].map String.toList
    let blank := " \t".toList
    isBlankText blank = true ∧
      (Extraction.ofText {} (unlines before)).snapshot.depth = 1 ∧
      extractDocument {} (unlines before) = "## f(b)\n# a".toList ∧
      extractDocument {} (unlines (before ++ [blank] ++ after)) =
        extractDocument {} (unlines before) ++ "\n\n".toList ++
          extractDocument {} (unlines after) := by
  intro before after blank
  have hdepth : (Extraction.ofText {} (unlines before)).snapshot.depth = 1 := by decide
  have hblank : isBlankText blank = true := by decide
  refine ⟨hblank, hdepth, by decide, ?_⟩
  exact (blank_line_separates_sources {} before after hblank).2.2.2 (by decide) (by decide)
    (Or.inr hdepth)

end SlashDoc
