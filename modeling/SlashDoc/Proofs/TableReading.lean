import SlashDoc.Html
import SlashDoc.Proofs.TextPieces

/-!
# Tables read back

A table can be read back from its markup: the class and every cell, whatever characters they have.
Cells are escaped before they are put between tags, so an opening bracket always begins one of the
table's own tags, and cutting the markup at these brackets gives the tags that were written.
-/
namespace SlashDoc.Html

open Text

def unescape : Text → Text
  | '&' :: 'l' :: 't' :: ';' :: rest => '<' :: unescape rest
  | '&' :: 'g' :: 't' :: ';' :: rest => '>' :: unescape rest
  | '&' :: 'a' :: 'm' :: 'p' :: ';' :: rest => '&' :: unescape rest
  | '&' :: 'q' :: 'u' :: 'o' :: 't' :: ';' :: rest => '"' :: unescape rest
  | c :: rest => c :: unescape rest
  | [] => []

theorem unescape_cons {c : Char} (h : c ≠ '&') (rest : Text) :
    unescape (c :: rest) = c :: unescape rest := by
  rw [unescape.eq_def]
  split <;> simp_all

theorem unescape_entity_append (c : Char) (rest : Text) :
    unescape (entity c ++ rest) = c :: unescape rest := by
  unfold entity
  split
  · rfl
  · rfl
  · rfl
  · rfl
  · rename_i hamp _
    exact unescape_cons hamp rest

theorem unescape_escape (text : Text) : unescape (escape text) = text := by
  induction text with
  | nil => rfl
  | cons c text ih =>
    rw [escape, List.flatMap_cons, unescape_entity_append]
    exact congrArg (c :: ·) ih

def isMarkup (c : Char) : Bool :=
  c == '<' || c == '>' || c == '"'

theorem isMarkup_of_mem_entity {c d : Char} (h : d ∈ entity c) : isMarkup d = false := by
  have hall : (entity c).all (!isMarkup ·) = true := by
    unfold entity
    split
    · decide
    · decide
    · decide
    · decide
    · rename_i hless hgreater _ hquote
      simpa [isMarkup] using ⟨⟨hless, hgreater⟩, hquote⟩
  simpa using List.all_eq_true.mp hall d h

theorem isMarkup_of_mem_escape {text : Text} {d : Char} (h : d ∈ escape text) :
    isMarkup d = false := by
  obtain ⟨c, -, hc⟩ := List.mem_flatMap.mp h
  exact isMarkup_of_mem_entity hc

structure Tag where
  name : Text
  text : Text
  deriving DecidableEq, Repr

namespace Tag

def written (tag : Tag) : Text :=
  '<' :: (tag.name ++ '>' :: tag.text)

def ofPiece (piece : Text) : Tag :=
  ⟨piece.takeWhile (· != '>'), (piece.dropWhile (· != '>')).tail⟩

def innerNames : List Text :=
  ["tr".toList, "/tr".toList, "td".toList, "/td".toList, "code".toList, "/code".toList,
    "/table".toList]

/-- A tag of a table: it is one of those that are always the same, or it opens the table and has two
quotes around a value; no other markup characters are in it or behind it. -/
structure Fixed (tag : Tag) : Prop where
  name : tag.name ∈ innerNames ∨ ∃ value, tag.name = "table class=\"".toList ++ value ++ ['"'] ∧
    ∀ c ∈ value, isMarkup c = false
  text : ∀ c ∈ tag.text, isMarkup c = false

theorem fixed_inner {name text : Text} (hname : name ∈ innerNames)
    (htext : ∀ c ∈ text, isMarkup c = false) : Fixed ⟨name, text⟩ :=
  ⟨.inl hname, htext⟩

/-- The brackets that a tag is written with are the only ones in it. -/
theorem Fixed.bracket_notMem {tag : Tag} (h : tag.Fixed) :
    '<' ∉ tag.name ∧ '>' ∉ tag.name ∧ '<' ∉ tag.text := by
  have hname : '<' ∉ tag.name ∧ '>' ∉ tag.name := by
    rcases h.name with hname | ⟨value, hname, hvalue⟩
    · have hall : innerNames.all (fun name => !name.contains '<' && !name.contains '>') = true := by
        decide
      simpa using List.all_eq_true.mp hall tag.name hname
    · have hless : '<' ∉ value := fun hmem => by cases hvalue '<' hmem
      have hgreater : '>' ∉ value := fun hmem => by cases hvalue '>' hmem
      rw [hname]
      simp [hless, hgreater]
  exact ⟨hname.1, hname.2, fun hmem => by cases h.text '<' hmem⟩

theorem ofPiece_of_notMem {tag : Tag} (h : '>' ∉ tag.name) :
    ofPiece (tag.name ++ '>' :: tag.text) = tag := by
  have hname := bne_of_notMem h
  rw [ofPiece, takeWhile_run hname (by simp), dropWhile_run hname (by simp), List.tail_cons]

end Tag

/-- The tags of a piece of markup. What stands before the first of them is left out. -/
def tags (markup : Text) : List Tag :=
  (splitOn '<' markup).tail.map Tag.ofPiece

theorem tags_flatMap_written {list : List Tag} (h : ∀ tag ∈ list, tag.Fixed) :
    tags (list.flatMap Tag.written) = list := by
  have hpieces : list.flatMap Tag.written = List.intercalate ['<']
      ([] :: list.map fun tag => tag.name ++ '>' :: tag.text) := by
    rw [intercalate_singleton_cons, List.flatMap_map]
    rfl
  -- Between two opening brackets stands exactly one tag with the text behind it.
  have hfree : ∀ piece ∈ [] :: list.map fun tag => tag.name ++ '>' :: tag.text, '<' ∉ piece := by
    intro piece hpiece
    rcases List.mem_cons.mp hpiece with rfl | hpiece
    · exact List.not_mem_nil
    · obtain ⟨tag, htag, rfl⟩ := List.mem_map.mp hpiece
      obtain ⟨hname, -, htext⟩ := (h tag htag).bracket_notMem
      simp [hname, htext]
  have hsplit : splitOn '<' (list.flatMap Tag.written) =
      [] :: list.map fun tag => tag.name ++ '>' :: tag.text := by
    rw [hpieces]
    exact splitOn_intercalate (List.cons_ne_nil _ _) hfree
  calc tags (list.flatMap Tag.written)
      = list.map (Tag.ofPiece ∘ fun tag => tag.name ++ '>' :: tag.text) := by
        rw [tags, hsplit, List.tail_cons, List.map_map]
    _ = list.map id := List.map_congr_left fun tag htag =>
        Tag.ofPiece_of_notMem (h tag htag).bracket_notMem.2.1
    _ = list := List.map_id list

def cellTags (format : CellFormat) (cell : Text) : List Tag :=
  match format with
  | .code => [⟨"td".toList, []⟩, ⟨"code".toList, escape cell⟩, ⟨"/code".toList, []⟩,
      ⟨"/td".toList, []⟩]
  | .plain => [⟨"td".toList, escape cell⟩, ⟨"/td".toList, []⟩]
  | .bracketed => [⟨"td".toList, ['['] ++ escape cell ++ [']']⟩, ⟨"/td".toList, []⟩]

def rowTags (format : CellFormat) (row : List Text) : List Tag :=
  [⟨"tr".toList, []⟩] ++ row.flatMap (cellTags format) ++ [⟨"/tr".toList, []⟩]

def tableTags (format : CellFormat) (cssClass : Text) (rows : List (List Text)) : List Tag :=
  [⟨"table class=\"".toList ++ escape cssClass ++ ['"'], []⟩] ++ rows.flatMap (rowTags format) ++
    [⟨"/table".toList, []⟩]

theorem flatMap_written_cellTags (format : CellFormat) (cell : Text) :
    (cellTags format cell).flatMap Tag.written = renderCell format cell := by
  unfold cellTags renderCell CellFormat.apply
  cases format <;> simp [Tag.written]

theorem flatMap_written_rowTags (format : CellFormat) (row : List Text) :
    (rowTags format row).flatMap Tag.written = renderRow format row := by
  unfold rowTags renderRow
  rw [List.flatMap_append, List.flatMap_append, List.flatMap_assoc]
  simp only [flatMap_written_cellTags]
  rfl

theorem flatMap_written_tableTags (format : CellFormat) (cssClass : Text) {rows : List (List Text)}
    (hne : rows ≠ []) :
    (tableTags format cssClass rows).flatMap Tag.written = renderTable format cssClass rows := by
  unfold tableTags renderTable
  rw [if_neg hne, List.flatMap_append, List.flatMap_append, List.flatMap_assoc]
  simp only [flatMap_written_rowTags, List.flatMap_cons, List.flatMap_nil, Tag.written,
    List.append_assoc, List.cons_append]
  rfl

theorem fixed_of_mem_cellTags {format : CellFormat} {cell : Text} {tag : Tag}
    (h : tag ∈ cellTags format cell) : tag.Fixed := by
  have hcell : ∀ c ∈ escape cell, isMarkup c = false := fun c hc => isMarkup_of_mem_escape hc
  cases format with
  | code =>
    simp only [cellTags, List.mem_cons, List.not_mem_nil, or_false] at h
    rcases h with rfl | rfl | rfl | rfl
    · exact Tag.fixed_inner (by decide) (by simp)
    · exact Tag.fixed_inner (by decide) hcell
    · exact Tag.fixed_inner (by decide) (by simp)
    · exact Tag.fixed_inner (by decide) (by simp)
  | plain =>
    simp only [cellTags, List.mem_cons, List.not_mem_nil, or_false] at h
    rcases h with rfl | rfl
    · exact Tag.fixed_inner (by decide) hcell
    · exact Tag.fixed_inner (by decide) (by simp)
  | bracketed =>
    simp only [cellTags, List.mem_cons, List.not_mem_nil, or_false] at h
    rcases h with rfl | rfl
    · apply Tag.fixed_inner (by decide)
      intro c hc
      simp only [List.mem_append, List.mem_singleton] at hc
      rcases hc with (rfl | hc) | rfl
      · rfl
      · exact hcell c hc
      · rfl
    · exact Tag.fixed_inner (by decide) (by simp)

theorem fixed_of_mem_rowTags {format : CellFormat} {row : List Text} {tag : Tag}
    (h : tag ∈ rowTags format row) : tag.Fixed := by
  simp only [rowTags, List.mem_append, List.mem_singleton, List.mem_flatMap] at h
  rcases h with (rfl | ⟨cell, -, h⟩) | rfl
  · exact Tag.fixed_inner (by decide) (by simp)
  · exact fixed_of_mem_cellTags h
  · exact Tag.fixed_inner (by decide) (by simp)

theorem fixed_of_mem_tableTags {format : CellFormat} {cssClass : Text} {rows : List (List Text)}
    {tag : Tag} (h : tag ∈ tableTags format cssClass rows) : tag.Fixed := by
  simp only [tableTags, List.mem_append, List.mem_singleton, List.mem_flatMap] at h
  rcases h with (rfl | ⟨row, -, h⟩) | rfl
  · exact ⟨.inr ⟨escape cssClass, rfl, fun c hc => isMarkup_of_mem_escape hc⟩, by simp⟩
  · exact fixed_of_mem_rowTags h
  · exact Tag.fixed_inner (by decide) (by simp)

theorem tags_renderTable (format : CellFormat) (cssClass : Text) {rows : List (List Text)}
    (hne : rows ≠ []) :
    tags (renderTable format cssClass rows) = tableTags format cssClass rows := by
  rw [← flatMap_written_tableTags format cssClass hne]
  exact tags_flatMap_written fun tag htag => fixed_of_mem_tableTags htag

def CellFormat.tagName : CellFormat → Text
  | .code => "code".toList
  | .plain | .bracketed => "td".toList

def CellFormat.content : CellFormat → Text → Text
  | .code, text | .plain, text => text
  | .bracketed, text => text.tail.dropLast

/-- Reads one tag, given the cells behind it that have no row yet and the rows behind these. -/
def readTag (format : CellFormat) (tag : Tag) (read : List Text × List (List Text)) :
    List Text × List (List Text) :=
  if tag.name = "tr".toList then ([], read.1 :: read.2)
  else if tag.name = format.tagName then (unescape (format.content tag.text) :: read.1, read.2)
  else read

def quotedValue (name : Text) : Text :=
  (name.dropWhile (· != '"')).tail.takeWhile (· != '"')

def readTable (format : CellFormat) (markup : Text) : Option (Text × List (List Text)) :=
  match tags markup with
  | [] => none
  | table :: rest =>
    some (unescape (quotedValue table.name), (rest.foldr (readTag format) ([], [])).2)

theorem foldr_readTag_cellTags (format : CellFormat) (cell : Text)
    (read : List Text × List (List Text)) :
    (cellTags format cell).foldr (readTag format) read = (cell :: read.1, read.2) := by
  have hcell : (unescape (escape cell) :: read.1, read.2) = (cell :: read.1, read.2) := by
    rw [unescape_escape]
  cases format with
  | code => exact hcell
  | plain => exact hcell
  | bracketed =>
    change (unescape (escape cell ++ [']']).dropLast :: read.1, read.2) = _
    rw [List.dropLast_concat]
    exact hcell

theorem foldr_readTag_cells (format : CellFormat) (row : List Text)
    (read : List Text × List (List Text)) :
    (row.flatMap (cellTags format)).foldr (readTag format) read = (row ++ read.1, read.2) := by
  induction row with
  | nil => rfl
  | cons cell row ih =>
    rw [List.flatMap_cons, List.foldr_append, ih, foldr_readTag_cellTags]
    rfl

theorem foldr_readTag_rowTags (format : CellFormat) (row : List Text) (rows : List (List Text)) :
    (rowTags format row).foldr (readTag format) ([], rows) = ([], row :: rows) := by
  -- A closing tag is passed over; the cells find their row at the tag that opens it.
  have hend : readTag format ⟨"/tr".toList, []⟩ ([], rows) = ([], rows) := by
    cases format <;> rfl
  have hcells : (row.flatMap (cellTags format) ++ [Tag.mk "/tr".toList []]).foldr
      (readTag format) ([], rows) = (row, rows) := by
    rw [List.foldr_append, List.foldr_cons, List.foldr_nil, hend, foldr_readTag_cells,
      List.append_nil]
  rw [rowTags, List.append_assoc, List.singleton_append, List.foldr_cons, hcells]
  rfl

theorem foldr_readTag_rows (format : CellFormat) (rows later : List (List Text)) :
    (rows.flatMap (rowTags format)).foldr (readTag format) ([], later) = ([], rows ++ later) := by
  induction rows with
  | nil => rfl
  | cons row rows ih =>
    rw [List.flatMap_cons, List.foldr_append, ih, foldr_readTag_rowTags]
    rfl

theorem quotedValue_table (cssClass : Text) :
    quotedValue ("table class=\"".toList ++ escape cssClass ++ ['"']) = escape cssClass := by
  have hquote : '"' ∉ escape cssClass := fun hmem => by cases isMarkup_of_mem_escape hmem
  change (escape cssClass ++ ['"']).takeWhile (· != '"') = escape cssClass
  exact takeWhile_run (bne_of_notMem hquote) (by simp)

theorem readTable_renderTable (format : CellFormat) (cssClass : Text) {rows : List (List Text)}
    (hne : rows ≠ []) :
    readTable format (renderTable format cssClass rows) = some (cssClass, rows) := by
  have hend : readTag format ⟨"/table".toList, []⟩ ([], []) = ([], []) := by
    cases format <;> rfl
  have hrows : (rows.flatMap (rowTags format) ++ [Tag.mk "/table".toList []]).foldr
      (readTag format) ([], []) = ([], rows) := by
    rw [List.foldr_append, List.foldr_cons, List.foldr_nil, hend, foldr_readTag_rows,
      List.append_nil]
  rw [readTable, tags_renderTable format cssClass hne, tableTags, List.append_assoc,
    List.singleton_append]
  dsimp only
  rw [hrows, quotedValue_table, unescape_escape]

theorem eq_of_renderTable_eq {format : CellFormat} {cssClass other : Text}
    {rows lists : List (List Text)} (hne : rows ≠ [])
    (h : renderTable format cssClass rows = renderTable format other lists) :
    cssClass = other ∧ rows = lists := by
  have hread := readTable_renderTable format cssClass hne
  rw [h] at hread
  by_cases hlists : lists = []
  · subst hlists
    cases hread
  · rw [readTable_renderTable format other hlists] at hread
    obtain ⟨rfl, rfl⟩ := Prod.mk.inj (Option.some.inj hread)
    exact ⟨rfl, rfl⟩

/-- Whatever characters the class and the cells have, they are read back from the table, so a table
determines both. It consists of its own tags and of text between them, and its only markup
characters are the brackets of these tags and the quotes around the class. -/
theorem tables_read_back (format : CellFormat) :
    (∀ cssClass rows, rows ≠ [] →
      readTable format (renderTable format cssClass rows) = some (cssClass, rows)) ∧
      (∀ cssClass other rows lists, rows ≠ [] →
        renderTable format cssClass rows = renderTable format other lists →
          cssClass = other ∧ rows = lists) ∧
      ∀ cssClass rows, rows ≠ [] →
        let table := renderTable format cssClass rows
        table = (tags table).flatMap Tag.written ∧ ∀ tag ∈ tags table, tag.Fixed := by
  refine ⟨?_, ?_, ?_⟩
  · intro cssClass rows hne
    exact readTable_renderTable format cssClass hne
  · intro cssClass other rows lists hne h
    exact eq_of_renderTable_eq hne h
  · intro cssClass rows hne table
    have htags : tags table = tableTags format cssClass rows :=
      tags_renderTable format cssClass hne
    rw [htags]
    constructor
    · exact (flatMap_written_tableTags format cssClass hne).symm
    · intro tag htag
      exact fixed_of_mem_tableTags htag

/-- Cells that look like the tags around them, next to an empty row. -/
theorem tables_read_back_from_tags_in_cells :
    let rows := [["</code></td>".toList, "&lt;".toList], []]
    let table := renderTable .code "a\"b".toList rows
    rows ≠ [] ∧ readTable .code table = some ("a\"b".toList, rows) ∧
      Tag.mk "code".toList "&lt;/code&gt;&lt;/td&gt;".toList ∈ tags table ∧
      ∀ tag ∈ tags table, tag.Fixed := by
  intro rows table
  have hne : rows ≠ [] := by decide
  refine ⟨hne, (tables_read_back .code).1 _ _ hne, ?_, ((tables_read_back .code).2.2 _ _ hne).2⟩
  decide +kernel

end SlashDoc.Html
