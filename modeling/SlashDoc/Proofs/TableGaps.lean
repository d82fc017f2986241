import Mathlib.Data.List.Chain
import SlashDoc.Markdown
import SlashDoc.Proofs.TextPieces

/-!
# Empty lines behind tables

Setting tables apart inserts an empty line behind every table that a line with something to show
follows directly, and changes nothing else. A line of no-break spaces shows nothing, so none is
inserted before it; but such a line does not end raw markup. That takes a line of spaces and tabs.
-/
namespace SlashDoc

open Text

namespace Markdown

theorem head?_separateLines (lines : List Text) : (separateLines lines).head? = lines.head? := by
  fun_cases separateLines lines <;> rfl

theorem sublist_separateLines (lines : List Text) : lines.Sublist (separateLines lines) := by
  fun_induction separateLines lines with
  | case1 => exact List.Sublist.refl _
  | case2 line => exact List.Sublist.refl _
  | case3 line next rest _ ih => exact (ih.cons []).cons_cons line
  | case4 line next rest _ ih => exact ih.cons_cons line

theorem mem_separateLines {lines : List Text} {line : Text} (h : line ∈ separateLines lines) :
    line ∈ lines ∨ line = [] := by
  fun_induction separateLines lines with
  | case1 => exact .inl h
  | case2 => exact .inl h
  | case3 first next rest _ ih =>
    rcases List.mem_cons.mp h with rfl | h
    · exact .inl List.mem_cons_self
    · rcases List.mem_cons.mp h with rfl | h
      · exact .inr rfl
      · exact (ih h).imp_left (List.mem_cons_of_mem first)
  | case4 first next rest _ ih =>
    rcases List.mem_cons.mp h with rfl | h
    · exact .inl List.mem_cons_self
    · exact (ih h).imp_left (List.mem_cons_of_mem first)

theorem count_separateLines {line : Text} (hne : line ≠ []) (lines : List Text) :
    (separateLines lines).count line = lines.count line := by
  fun_induction separateLines lines with
  | case1 => rfl
  | case2 => rfl
  | case3 first next rest _ ih =>
    rw [List.count_cons, List.count_cons_of_ne hne.symm, ih, ← List.count_cons]
  | case4 first next rest _ ih => rw [List.count_cons, ih, ← List.count_cons]

def BehindTable (p : Text → Bool) (line next : Text) : Prop :=
  Html.isTableLine line = true → p next = true

/-- Where an empty line counts, the lines in front of which no empty line is inserted decide. -/
theorem isChain_separateLines_iff {p : Text → Bool} (hempty : p [] = true) (lines : List Text) :
    (separateLines lines).IsChain (BehindTable p) ↔
      lines.IsChain fun line next =>
        Html.isTableLine line = true → isBlankText next = true → p next = true := by
  fun_induction separateLines lines with
  | case1 => simp
  | case2 line => simp
  | case3 line next rest hshown ih =>
    -- The inserted line is allowed behind the table, and as it is no table, anything behind it is.
    have hblank : isBlankText next = false := by
      rw [Bool.and_eq_true, Bool.not_eq_true'] at hshown
      exact hshown.2
    rw [List.isChain_cons_cons, List.isChain_cons, List.isChain_cons_cons, ih]
    simp [BehindTable, hempty, hblank, Html.isTableLine, after?]
  | case4 line next rest hshown ih =>
    -- Nothing is inserted, so behind a table the next line is known to show nothing.
    have hnext : Html.isTableLine line = true → isBlankText next = true := by simpa using hshown
    have hiff : BehindTable p line next ↔
        (Html.isTableLine line = true → isBlankText next = true → p next = true) :=
      ⟨fun h htable _ => h htable, fun h htable => h htable (hnext htable)⟩
    rw [List.isChain_cons, head?_separateLines, List.isChain_cons_cons, ih, ← hiff]
    simp

theorem isChain_separateLines (lines : List Text) :
    (separateLines lines).IsChain (BehindTable isBlankText) := by
  rw [isChain_separateLines_iff rfl, List.isChain_iff_forall_rel_of_append_cons_cons]
  intro line next front back _ _ hblank
  exact hblank

/-- Behind a table comes nothing, or a line that shows nothing. -/
theorem isBlankText_of_separateLines {lines front back : List Text} {table next : Text}
    (htable : Html.isTableLine table = true) (h : separateLines lines = front ++ table :: back)
    (hnext : next ∈ back.head?) : isBlankText next = true := by
  obtain ⟨rest, rfl⟩ := List.head?_eq_some_iff.mp hnext
  have hchain := isChain_separateLines lines
  rw [h, List.isChain_append_cons_cons] at hchain
  exact hchain.2.1 htable

theorem separateLines_of_isChain {lines : List Text} (h : lines.IsChain (BehindTable isBlankText)) :
    separateLines lines = lines := by
  fun_induction separateLines lines with
  | case1 => rfl
  | case2 line => rfl
  | case3 line next rest hshown ih =>
    rw [Bool.and_eq_true, Bool.not_eq_true'] at hshown
    have hblank := (List.isChain_cons_cons.mp h).1 hshown.1
    rw [hshown.2] at hblank
    cases hblank
  | case4 line next rest _ ih => rw [ih (List.isChain_cons_cons.mp h).2]

theorem separateLines_eq_self_iff {lines : List Text} :
    separateLines lines = lines ↔ lines.IsChain (BehindTable isBlankText) :=
  ⟨fun h => h ▸ isChain_separateLines lines, separateLines_of_isChain⟩

/-- The lines one by one, each with what is inserted behind it. -/
theorem separateLines_eq_flatten (lines : List Text) :
    separateLines lines =
      (lines.mapIdx fun i line =>
        if Html.isTableLine line && (lines[i + 1]?).any (·.any (!isBlank ·)) then [line, []]
        else [line]).flatten := by
  have hshows : ∀ next : Text, next.any (!isBlank ·) = !isBlankText next := by
    intro next
    rw [isBlankText, List.not_all_eq_any_not]
  fun_induction separateLines lines with
  | case1 => rfl
  | case2 line => simp
  | case3 line next rest hshown ih =>
    rw [List.mapIdx_cons, List.flatten_cons, ih]
    simp only [List.getElem?_cons_succ, List.getElem?_cons_zero, Option.any_some, hshows, hshown,
      if_true, List.cons_append, List.nil_append]
  | case4 line next rest hshown ih =>
    rw [List.mapIdx_cons, List.flatten_cons, ih]
    simp only [List.getElem?_cons_succ, List.getElem?_cons_zero, Option.any_some, hshows, hshown]
    rfl

theorem splitOn_separateTables (text : Text) :
    splitOn '\n' (separateTables text) = separateLines (splitOn '\n' text) := by
  apply splitOn_intercalate
  · intro hnil
    have hsublist := sublist_separateLines (splitOn '\n' text)
    rw [hnil] at hsublist
    exact splitOn_ne_nil '\n' text (List.sublist_nil.mp hsublist)
  · intro line hline
    rcases mem_separateLines hline with hline | rfl
    · exact notMem_of_mem_splitOn hline
    · exact List.not_mem_nil

theorem separateTables_separateTables (text : Text) :
    separateTables (separateTables text) = separateTables text := by
  have hlines : separateLines (separateLines (splitOn '\n' text)) =
      separateLines (splitOn '\n' text) :=
    separateLines_of_isChain (isChain_separateLines _)
  rw [separateTables, splitOn_separateTables, hlines]
  rfl

theorem separateTables_eq_self_iff {text : Text} :
    separateTables text = text ↔ (splitOn '\n' text).IsChain (BehindTable isBlankText) := by
  rw [← separateLines_eq_self_iff]
  constructor
  · intro h
    rw [← splitOn_separateTables, h]
  · intro h
    rw [separateTables, h, unlines_splitOn]

/-- Exactly the tables that a line with something to show follows directly get an empty line behind
them. A second pass finds nothing left to do. -/
theorem tables_set_apart_by_empty_lines (text : Text) :
    let lines := splitOn '\n' text
    splitOn '\n' (separateTables text) =
        (lines.mapIdx fun i line =>
          if Html.isTableLine line && (lines[i + 1]?).any (·.any (!isBlank ·)) then [line, []]
          else [line]).flatten ∧
      separateTables (separateTables text) = separateTables text ∧
      (separateTables text = text ↔
        lines.IsChain fun line next => Html.isTableLine line = true → next.all isBlank = true) := by
  intro lines
  refine ⟨?_, separateTables_separateTables text, separateTables_eq_self_iff⟩
  rw [splitOn_separateTables]
  exact separateLines_eq_flatten lines

/-- Every table is followed by a line that shows nothing. Everywhere in the text it is followed by
a line of spaces and tabs exactly if no table of the given text stands before a line of other
blanks. -/
theorem tables_end_at_empty_lines (text : Text) :
    let lines := splitOn '\n' text
    let separated := splitOn '\n' (separateTables text)
    (separated.IsChain fun line next => Html.isTableLine line = true → isBlankText next = true) ∧
      ((separated.IsChain fun line next =>
          Html.isTableLine line = true → isEmptyLine next = true) ↔
        lines.IsChain fun line next => Html.isTableLine line = true →
          isBlankText next = true → isEmptyLine next = true) := by
  intro lines separated
  have hseparated : separated = separateLines lines := splitOn_separateTables text
  rw [hseparated]
  exact ⟨isChain_separateLines lines, isChain_separateLines_iff (p := isEmptyLine) rfl lines⟩

/-- A line that is one no-break space stays right behind the table. -/
theorem tables_end_at_empty_lines_not_at_other_blanks :
    let text := "<table></table>\n\u00A0\n# Title".toList
    separateTables text = text ∧
      ¬(splitOn '\n' (separateTables text)).IsChain fun line next =>
        Html.isTableLine line = true → isEmptyLine next = true := by
  intro text
  refine ⟨by decide +kernel, ?_⟩
  rw [(tables_end_at_empty_lines text).2]
  decide +kernel

end Markdown

end SlashDoc
