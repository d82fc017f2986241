import SlashDoc.Proofs.Continuation
import SlashDoc.Proofs.TableGaps

/-!
# Signature tables in a document

A table is put into a block when its signatures are flushed, and it is found again much later, when
tables are set apart from the text after them. The two sides share no code. They agree because a
table is always written between the same two tags and because nothing in it breaks the line, unless
a line feed comes from the settings.
-/
namespace SlashDoc

open Text

variable {settings : Settings}

namespace Html

theorem lineFeed_mem_escape {text : Text} (h : '\n' ∈ text) : '\n' ∈ escape text :=
  List.mem_flatMap.mpr ⟨'\n', h, by decide⟩

def tableContent (format : CellFormat) (cssClass : Text) (rows : List (List Text)) : Text :=
  " class=\"".toList ++ escape cssClass ++ "\">".toList ++ rows.flatMap (renderRow format)

theorem renderTable_eq (format : CellFormat) (cssClass : Text) {rows : List (List Text)}
    (h : rows ≠ []) :
    renderTable format cssClass rows =
      "<table".toList ++ (tableContent format cssClass rows ++ "</table>".toList) := by
  have htag : "<table class=\"".toList = "<table".toList ++ " class=\"".toList := by decide
  unfold tableContent
  rw [renderTable, if_neg h, htag]
  simp only [List.append_assoc]

/-- A table is found again exactly if it is one line. -/
theorem isTableLine_renderTable_iff {format : CellFormat} {cssClass : Text}
    {rows : List (List Text)} (h : rows ≠ []) :
    isTableLine (renderTable format cssClass rows) = true ↔
      OneLine (renderTable format cssClass rows) := by
  have hend : endsWord (tableContent format cssClass rows ++ "</table>".toList) = true := by
    have hword : isWord ' ' = false := by decide
    change (!isWord ' ') = true
    rw [hword]
    rfl
  have hblank : ((tableContent format cssClass rows ++ "</table>".toList).reverse.dropWhile
      isBlank) = "</table>".toList.reverse ++ (tableContent format cssClass rows).reverse := by
    rw [List.reverse_append]
    exact List.dropWhile_cons_of_neg (by decide)
  have hopen : OneLine "<table".toList := by simp [OneLine]
  have hclose : OneLine "</table>".toList := by simp [OneLine]
  rw [renderTable_eq format cssClass h, isTableLine, after?_append]
  dsimp only
  rw [hblank, after?_append]
  constructor
  · intro hline
    have hcontent : OneLine (tableContent format cssClass rows) := by
      intro hmem
      rw [Bool.and_eq_true, List.all_eq_true] at hline
      simpa using hline.2 '\n' (List.mem_reverse.mpr hmem)
    exact hopen.append (hcontent.append hclose)
  · intro hline
    have hcontent : '\n' ∉ tableContent format cssClass rows := by
      intro hmem
      exact hline (List.mem_append_right _ (List.mem_append_left _ hmem))
    rw [Bool.and_eq_true, List.all_eq_true]
    refine ⟨hend, fun c hc => ?_⟩
    have hne : c ≠ '\n' := by
      rintro rfl
      exact hcontent (List.mem_reverse.mp hc)
    simpa using hne

theorem oneLine_of_oneLine_renderTable {cssClass : Text} {rows : List (List Text)} (hne : rows ≠ [])
    (h : OneLine (renderTable .code cssClass rows)) :
    OneLine cssClass ∧ ∀ row ∈ rows, ∀ cell ∈ row, OneLine cell := by
  rw [renderTable_eq _ _ hne] at h
  unfold tableContent at h
  simp only [OneLine, List.mem_append] at h
  refine ⟨fun hmem => h ?_, fun row hrow cell hcell hmem => h ?_⟩
  · exact .inr (.inl (.inl (.inl (.inr (lineFeed_mem_escape hmem)))))
  · have hcode : '\n' ∈ renderCell .code cell := by
      unfold renderCell CellFormat.apply
      simp only [List.mem_append]
      exact .inl (.inr (.inl (.inr (lineFeed_mem_escape hmem))))
    have hrendered : '\n' ∈ renderRow .code row := by
      have hcells : '\n' ∈ row.flatMap (renderCell .code) :=
        List.mem_flatMap.mpr ⟨cell, hcell, hcode⟩
      unfold renderRow
      simp only [List.mem_append]
      exact .inl (.inr hcells)
    have hrows : '\n' ∈ rows.flatMap (renderRow .code) :=
      List.mem_flatMap.mpr ⟨row, hrow, hrendered⟩
    exact .inr (.inl (.inr hrows))

end Html

theorem Signature.isTableLine_table_iff {signatures : List Signature} (hne : signatures ≠ [])
    (h : ∀ signature ∈ signatures, ∃ body, Signature.ofBody? settings body = some signature) :
    Html.isTableLine (Signature.table settings signatures) = true ↔ settings.OneLine := by
  have hrows : signatures.map Signature.cells ≠ [] := by simpa using hne
  rw [Signature.table, Html.isTableLine_renderTable_iff hrows]
  constructor
  · intro hline
    obtain ⟨hclass, hcells⟩ := Html.oneLine_of_oneLine_renderTable hrows hline
    obtain ⟨signature, hmem⟩ := List.exists_mem_of_ne_nil signatures hne
    obtain ⟨body, hbody⟩ := h signature hmem
    obtain ⟨found, -, rfl⟩ := Option.map_eq_some_iff.mp hbody
    refine ⟨?_, hclass⟩
    exact hcells _ (List.mem_map_of_mem hmem) settings.separator (by simp [cells])
  · rintro ⟨hseparator, hclass⟩
    apply Html.oneLine_renderTable hclass
    intro row hrow
    obtain ⟨signature, hmem, rfl⟩ := List.mem_map.mp hrow
    obtain ⟨body, hbody⟩ := h signature hmem
    exact oneLine_cells hseparator hbody

namespace Run

variable {earlier : List (Run Text)} {opened : List Text} {snapshot : Snapshot}

/-- Every snapshot that lines lead to stands behind some runs, in the middle of another one. -/
theorem exists_follows (settings : Settings) (lines : List Text) :
    ∃ earlier opened,
      Follows settings earlier opened (Extraction.feedAll settings {} lines).snapshot := by
  induction lines using List.reverseRecOn with
  | nil => exact ⟨[], [], follows_initial settings⟩
  | append_singleton lines line ih =>
    obtain ⟨earlier, opened, h⟩ := ih
    rw [Extraction.feedAll_append]
    cases hbody : Comment.body? line with
    | some body => exact ⟨_, _, (h.step_comment hbody).2⟩
    | none =>
      by_cases hopened : opened = []
      · subst hopened
        exact ⟨_, _, (h.step_code_nil hbody).2⟩
      · exact ⟨_, _, (h.step_code hopened hbody).2⟩

theorem Follows.feedAll_comments {extraction : Extraction}
    (h : Follows settings earlier opened extraction.snapshot) {lines : List Text}
    (hlines : ∀ line ∈ lines, (Comment.body? line).isSome) :
    Follows settings earlier (opened ++ lines.filterMap Comment.body?)
      (extraction.feedAll settings lines).snapshot := by
  induction lines generalizing extraction opened with
  | nil => simpa using h
  | cons line lines ih =>
    obtain ⟨body, hbody⟩ := Option.isSome_iff_exists.mp (hlines line List.mem_cons_self)
    have hnext : Follows settings earlier (opened ++ [body])
        (extraction.feed settings line).snapshot := (h.step_comment hbody).2
    have hrest := ih hnext fun other hother => hlines other (List.mem_cons_of_mem line hother)
    simpa [hbody] using hrest

theorem lines_of_block? {run : Run Text} {block : Block}
    (h : run.block? settings earlier = some block) :
    block.lines = block.heading.toList ++ Body.layout settings run.bodies := by
  unfold block? at h
  dsimp only at h
  split at h
  · obtain rfl := Option.some.inj h
    rfl
  · split at h
    · obtain rfl := Option.some.inj h
      rfl
    · obtain rfl := Option.some.inj h
      rfl
    · cases h

end Run

/-- Signatures that wait get their table where no further signature follows. -/
theorem Body.layoutAfter_of_head? {bodies : List Text}
    (h : ∀ body ∈ bodies.head?, isSignature body = false) (pending : List Signature) :
    layoutAfter settings pending bodies =
      Signature.tableLines settings pending ++ layout settings bodies := by
  cases bodies with
  | nil => simp [layoutAfter_nil, layout]
  | cons body rest =>
    have hbody : isSignature body = false := h body rfl
    rw [layoutAfter_cons_of_content pending rest hbody, ← layout_eq_layoutAfter, layout, hbody]
    rfl

def Snapshot.advance (settings : Settings) (snapshot : Snapshot) : Option Text → Step
  | some line => snapshot.step settings line
  | none => snapshot.finish settings

theorem Run.Follows.advance_block {earlier : List (Run Text)} {opened : List Text}
    {snapshot : Snapshot} (h : Follows settings earlier opened snapshot) (hopened : opened ≠ [])
    {next : Option Text} {block : Block}
    (hblock : (snapshot.advance settings next).block = some block) :
    block? settings earlier ⟨opened, next⟩ = some block := by
  cases next with
  | none =>
    rw [← hblock, Snapshot.advance, Snapshot.finish_inBlock (h.isOpen hopened)]
    exact (h.close hopened none).1.symm
  | some line =>
    cases hbody : Comment.body? line with
    | none =>
      rw [← hblock]
      exact (h.step_code hopened hbody).1.symm
    | some body =>
      rw [Snapshot.advance, (h.step_comment hbody).1] at hblock
      cases hblock

/-- A place in a source where signatures are flushed into a block that is kept. The lines `before`
it leave signatures pending. The comments `within` the block go on with something else than a
signature, or there are none. What comes after them closes the block. -/
structure TableFlush (settings : Settings) (lines : List Text) where
  before : List Text
  within : List Text
  after : List Text
  block : Block
  lines_eq : lines = before ++ within ++ after
  pending : (Extraction.feedAll settings {} before).snapshot.signatureCount ≠ 0
  comments : ∀ line ∈ within, (Comment.body? line).isSome
  ends : ∀ line ∈ within.head?, ∀ body ∈ Comment.body? line, Body.isSignature body = false
  kept : ((Extraction.feedAll settings {} (before ++ within)).snapshot.advance settings
    after.head?).block = some block

theorem Call.settings_of_mem_extraction {lines : List Text} {call : Call}
    (h : call ∈ lines.map (Call.line settings) ++ [.finish settings]) :
    call.settings = settings := by
  rcases List.mem_append.mp h with h | h
  · obtain ⟨line, -, rfl⟩ := List.mem_map.mp h
    rfl
  · obtain rfl := List.mem_singleton.mp h
    rfl

namespace TableFlush

variable {lines : List Text}

def opened (flush : TableFlush settings lines) : Snapshot :=
  (Extraction.feedAll settings {} flush.before).snapshot

def table (flush : TableFlush settings lines) : Text :=
  Signature.table settings flush.opened.signatures

variable (flush : TableFlush settings lines)

theorem signatures_ne_nil : flush.opened.signatures ≠ [] := by
  have hcount := (Extraction.sound_feedAll settings flush.before).balanced.signatureCount
  intro hnil
  apply flush.pending
  rw [hcount]
  exact List.length_eq_zero_iff.mpr hnil

theorem flushSignatures_block :
    (flush.opened.flushSignatures settings).block = flush.opened.block ++ [flush.table] := by
  have hpending : flush.opened.signatureCount ≠ 0 := flush.pending
  rw [Snapshot.flushSignatures, if_neg hpending]
  exact Snapshot.block_addLine _ _

/-- The block keeps what it has after the flush; the comments behind only add to it. -/
theorem block_lines : ∃ rest, flush.block.lines =
    flush.block.heading.toList ++ (flush.opened.flushSignatures settings).block ++ rest := by
  obtain ⟨earlier, opened, h⟩ := Run.exists_follows settings flush.before
  have hsignatures := flush.signatures_ne_nil
  have hopened : opened ≠ [] := by
    rw [← h.hasPending_iff]
    simp [Snapshot.hasPending, flush.pending]
  have hclosing := h.feedAll_comments flush.comments
  rw [← Extraction.feedAll_append] at hclosing
  have hblock := hclosing.advance_block (by simp [hopened]) flush.kept
  have hhead : ∀ body ∈ (flush.within.filterMap Comment.body?).head?,
      Body.isSignature body = false := by
    intro body hbody
    cases hwithin : flush.within with
    | nil => simp [hwithin] at hbody
    | cons line rest =>
      obtain ⟨first, hfirst⟩ := Option.isSome_iff_exists.mp
        (flush.comments line (by simp [hwithin]))
      obtain rfl : first = body := by simpa [hwithin, hfirst] using hbody
      exact flush.ends line (by simp [hwithin]) first hfirst
  have hlayout : flush.opened.block ++ Body.layoutAfter settings flush.opened.signatures _ = _ :=
    h.content (flush.within.filterMap Comment.body?)
  rw [Body.layoutAfter_of_head? hhead, Signature.tableLines, if_neg hsignatures] at hlayout
  refine ⟨Body.layout settings (flush.within.filterMap Comment.body?), ?_⟩
  rw [Run.lines_of_block? hblock, ← hlayout, flush.flushSignatures_block]
  simp [table]

theorem block_mem :
    flush.block ∈ ((Extraction.feedAll settings {} lines).finish settings).blocks := by
  obtain ⟨before, within, after, block, rfl, -, -, -, hkept⟩ := flush
  rw [Extraction.feedAll_append]
  cases after with
  | nil =>
    rw [Extraction.feedAll_nil, Extraction.finish_blocks]
    exact List.mem_append_right _ (Option.mem_toList.mpr hkept)
  | cons line rest =>
    rw [Extraction.feedAll_cons]
    apply (Extraction.blocks_prefix_finish settings _).subset
    apply (Extraction.blocks_prefix_feedAll settings _ rest).subset
    rw [Extraction.feed_blocks]
    exact List.mem_append_right _ (Option.mem_toList.mpr hkept)

theorem isTableLine_table (hsettings : settings.OneLine) :
    Html.isTableLine flush.table = true := by
  have hrows : flush.opened.signatures.map Signature.cells ≠ [] := by
    simpa using flush.signatures_ne_nil
  have hcells : flush.opened.OneLines := by
    have hcalls : ∀ call ∈ flush.before.map (Call.line settings), call.settings.OneLine := by
      intro call hcall
      rwa [Call.settings_of_mem_extraction (List.mem_append_left _ hcall)]
    have hsession := (oneLine_of_mem_blocks hcalls).1
    rwa [← (Extraction.after_eq_session _).1, ← Extraction.feedAll_eq_after] at hsession
  rw [table, Signature.table, Html.isTableLine_renderTable_iff hrows]
  apply Html.oneLine_renderTable hsettings.2
  simpa using hcells.signatures

end TableFlush

/-- The lines of the text are those of the blocks. -/
theorem splitOn_extractDocument (hsettings : settings.OneLine) {text : Text}
    (hne : extractBlocks settings text ≠ []) :
    splitOn '\n' (extractDocument settings text) =
      List.intercalate [[]] ((extractBlocks settings text).map Block.lines) := by
  have hblocks : extractBlocks settings text = (Session.after
      ((Line.split text).map (Call.line settings) ++ [.finish settings])).blocks := by
    rw [← (Extraction.after_eq_session _).2, ← Extraction.ofLines_eq_after]
    rfl
  have hcalls : ∀ call ∈ (Line.split text).map (Call.line settings) ++ [.finish settings],
      call.settings.OneLine := by
    intro call hcall
    rwa [Call.settings_of_mem_extraction hcall]
  have hlines : ∀ block ∈ extractBlocks settings text, block.lines ≠ [] := fun block hblock =>
    ((sound_after _).shape block (hblocks ▸ hblock)).2
  have hdocument := Block.document_eq_intercalate hlines
  rw [← hdocument]
  apply splitOn_intercalate
  · exact (Block.document_eq_nil_iff hlines).not.mpr hne
  · have hfree := (oneLine_of_mem_blocks hcalls).2
    rw [← hblocks] at hfree
    exact oneLine_of_mem_document hfree

theorem infix_intercalate {α : Type} (separator : List α) {lists : List (List α)} {list : List α}
    (h : list ∈ lists) : list <:+: List.intercalate separator lists := by
  induction lists with
  | nil => cases h
  | cons first lists ih =>
    by_cases hlists : lists = []
    · subst hlists
      obtain rfl := List.mem_singleton.mp h
      simp
    · rw [List.intercalate_cons_of_ne_nil hlists]
      rcases List.mem_cons.mp h with rfl | h
      · rw [List.append_assoc]
        exact (List.prefix_append _ _).isInfix
      · exact (ih h).trans (List.suffix_append _ _).isInfix

/-- Settings without line feeds are what it takes for a table of captured signatures to be found
again. Then every table that is flushed into a kept block stands in the document as a line of its
own; setting the tables apart adds lines, changes none, and leaves nothing that shows right behind
the table. -/
theorem flushed_tables_set_apart (settings : Settings) :
    (∀ signatures ≠ [],
      (∀ signature ∈ signatures, ∃ body, Signature.ofBody? settings body = some signature) →
        (Html.isTableLine (Signature.table settings signatures) = true ↔
          '\n' ∉ settings.separator ∧ '\n' ∉ settings.tableClass)) ∧
      ('\n' ∉ settings.separator → '\n' ∉ settings.tableClass →
        ∀ (text : Text) (flush : TableFlush settings (Line.split text)),
          let lines := splitOn '\n' (extractDocument settings text)
          let separated := splitOn '\n' (Markdown.separateTables (extractDocument settings text))
          (flush.opened.flushSignatures settings).block = flush.opened.block ++ [flush.table] ∧
            (flush.block ∈ extractBlocks settings text ∧ ∃ rest, flush.block.lines =
              flush.block.heading.toList ++ (flush.opened.flushSignatures settings).block ++ rest) ∧
            flush.block.lines <:+: lines ∧
            Html.isTableLine flush.table = true ∧
            (lines.Sublist separated ∧ separated.count flush.table = lines.count flush.table) ∧
            ∀ front back, separated = front ++ flush.table :: back →
              ∀ next ∈ back.head?, isBlankText next = true) := by
  constructor
  · intro signatures hne hcaptured
    exact Signature.isTableLine_table_iff hne hcaptured
  · intro hseparator hclass text flush lines separated
    have hblock : flush.block ∈ extractBlocks settings text := flush.block_mem
    have htable := flush.isTableLine_table ⟨hseparator, hclass⟩
    have hne : flush.table ≠ [] := by
      intro hnil
      rw [hnil] at htable
      cases htable
    have hseparated : separated = Markdown.separateLines lines :=
      Markdown.splitOn_separateTables _
    rw [hseparated]
    refine ⟨flush.flushSignatures_block, ⟨hblock, flush.block_lines⟩, ?_, htable, ⟨?_, ?_⟩,
      ?_⟩
    · have hlines := splitOn_extractDocument ⟨hseparator, hclass⟩ (List.ne_nil_of_mem hblock)
      change _ <:+: splitOn '\n' _
      rw [hlines]
      exact infix_intercalate [[]] (List.mem_map_of_mem hblock)
    · exact Markdown.sublist_separateLines lines
    · exact Markdown.count_separateLines hne lines
    · intro front back hsplit next hnext
      exact Markdown.isBlankText_of_separateLines htable hsplit hnext

/-- Two signatures and a line of text in the comments of a function; and a separator that breaks the
line of a table. -/
theorem flushed_tables_set_apart_before_text :
    let text := "// f :: a < b\n// :: c\n// text\nfunction f(x)".toList
    let flush : TableFlush {} (Line.split text) :=
      { before := ["// f :: a < b".toList, "// :: c".toList]
        within := ["// text".toList]
        after := ["function f(x)".toList]
        block := ⟨0, .namedFunction, some "## f(x)".toList, ["## f(x)".toList,
          Signature.table {} [⟨"f".toList, "::".toList, " a < b".toList⟩,
            ⟨[], "::".toList, "c".toList⟩],
          "text".toList]⟩
        lines_eq := by decide
        pending := by decide
        comments := by decide
        ends := by decide
        kept := by decide +kernel }
    let separated := splitOn '\n' (Markdown.separateTables (extractDocument {} text))
    let broken : Settings := { separator := "\n".toList }
    ('\n' ∉ ({} : Settings).separator ∧ '\n' ∉ ({} : Settings).tableClass ∧
        separated = ["## f(x)".toList] ++ flush.table :: ["".toList, "text".toList] ∧
        Html.isTableLine flush.table = true ∧ isBlankText "".toList = true) ∧
      Signature.ofBody? broken ":: c".toList = some ⟨[], "\n".toList, "c".toList⟩ ∧
      ¬Html.isTableLine (Signature.table broken [⟨[], "\n".toList, "c".toList⟩]) = true := by
  intro text flush separated broken
  have hseparator : '\n' ∉ ({} : Settings).separator := by decide
  have hclass : '\n' ∉ ({} : Settings).tableClass := by decide
  have hseparated : separated =
      ["## f(x)".toList] ++ flush.table :: ["".toList, "text".toList] := by decide +kernel
  have hcaptured : Signature.ofBody? broken ":: c".toList =
      some ⟨[], "\n".toList, "c".toList⟩ := by decide
  obtain ⟨-, -, -, htable, -, hblank⟩ :=
    (flushed_tables_set_apart {}).2 hseparator hclass text flush
  refine ⟨⟨hseparator, hclass, hseparated, htable, hblank _ _ hseparated _ rfl⟩, hcaptured, ?_⟩
  rw [(flushed_tables_set_apart broken).1 _ (List.cons_ne_nil _ _) (by simpa using ⟨_, hcaptured⟩)]
  decide

end SlashDoc
