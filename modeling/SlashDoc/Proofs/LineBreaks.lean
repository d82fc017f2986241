import SlashDoc.Extraction.Document
import SlashDoc.Proofs.LineAssembly

/-!
# The three kinds of line breaks

Splitting reads a text once and takes the longest break at every place. That is the same as writing
every break as a line feed first, in two passes over the whole text, and then splitting at the line
feeds. So a document does not depend on the kind of the breaks in its source.
-/
namespace SlashDoc

namespace Text

def replaceWord (first : Char) (more new : Text) : Text → Text
  | [] => []
  | c :: rest =>
    if c = first ∧ more <+: rest then new ++ replaceWord first more new (rest.drop more.length)
    else c :: replaceWord first more new rest
termination_by text => text.length
decreasing_by
  · simp only [List.length_drop, List.length_cons]
    omega
  · exact Nat.lt_succ_self _

/-- Writes `new` for every occurrence of a word, from left to right. The empty word occurs
nowhere. -/
def replaceAll : (word new text : Text) → Text
  | [], _, text => text
  | first :: more, new, text => replaceWord first more new text

theorem replaceWord_append (first : Char) (more new rest : Text) :
    replaceWord first more new (first :: (more ++ rest)) =
      new ++ replaceWord first more new rest := by
  rw [replaceWord, if_pos ⟨rfl, List.prefix_append more rest⟩, List.drop_left]

theorem replaceWord_cons {first c : Char} {more new rest : Text}
    (h : c = first → ¬more <+: rest) :
    replaceWord first more new (c :: rest) = c :: replaceWord first more new rest := by
  rw [replaceWord, if_neg fun hword => h hword.1 hword.2]

end Text

namespace Line

open Text

/-- Two passes over the text, one for the breaks of two characters and one for the carriage returns
that are left, write the same line feeds as one pass does. -/
theorem replaceAll_replaceAll_eq_normalise (text : Text) :
    replaceAll "\r".toList "\n".toList (replaceAll "\r\n".toList "\n".toList text) =
      normalise text := by
  change replaceWord '\r' [] ['\n'] (replaceWord '\r' ['\n'] ['\n'] text) = normalise text
  fun_induction normalise text with
  | case1 => simp [replaceWord]
  | case2 rest ih =>
    have hpair := replaceWord_append '\r' ['\n'] ['\n'] rest
    rw [List.singleton_append, List.singleton_append] at hpair
    rw [hpair, replaceWord_cons (by simp), ih]
  | case3 c rest hpair ih =>
    have hfirst : c = '\r' → ¬['\n'] <+: rest := by
      rintro rfl ⟨tail, rfl⟩
      exact hpair tail rfl rfl
    rw [replaceWord_cons hfirst]
    by_cases hc : c = '\r'
    · have hlone := replaceWord_append '\r' [] ['\n'] (replaceWord '\r' ['\n'] ['\n'] rest)
      rw [List.nil_append, List.singleton_append] at hlone
      rw [hc, hlone, ih, if_pos rfl]
    · rw [replaceWord_cons fun h => (hc h).elim, ih, if_neg hc]

theorem split_eq_splitOn_normalise (text : Text) :
    split text = splitOn '\n' (normalise text) := by
  fun_induction split text with
  | case1 => rfl
  | case2 rest ih => simp [normalise, splitOn, ih]
  | case3 c rest hpair hb ih =>
    have hfeed : (if c = '\r' then '\n' else c) = '\n' := by
      split
      · rfl
      · simpa [isBreak, *] using hb
    rw [normalise]
    · rw [hfeed, splitOn, if_pos rfl, ih]
    · exact hpair
  | case4 c rest hpair hb ih =>
    obtain ⟨hreturn, hfeed⟩ : c ≠ '\r' ∧ c ≠ '\n' := by simpa [isBreak] using hb
    rw [normalise]
    · rw [if_neg hreturn, splitOn, if_neg hfeed, ih]
    · exact hpair

theorem return_notMem_normalise (text : Text) : '\r' ∉ normalise text := by
  fun_induction normalise text with
  | case1 => exact List.not_mem_nil
  | case2 rest ih => simpa using ih
  | case3 c rest hpair ih =>
    by_cases hc : c = '\r'
    · simpa [hc] using ih
    · simpa [hc, Ne.symm hc] using ih

theorem normalise_of_notMem {text : Text} (h : '\r' ∉ text) : normalise text = text := by
  fun_induction normalise text with
  | case1 => rfl
  | case2 rest ih => simp at h
  | case3 c rest hpair ih =>
    obtain ⟨hc, hrest⟩ := not_or.mp (List.mem_cons.not.mp h)
    rw [if_neg (Ne.symm hc), ih hrest]

theorem split_normalise (text : Text) : split (normalise text) = split text := by
  rw [split_eq_splitOn_normalise, normalise_of_notMem (return_notMem_normalise text),
    ← split_eq_splitOn_normalise]

theorem breakFree_iff {text : Text} : BreakFree text ↔ '\r' ∉ text ∧ '\n' ∉ text := by
  constructor
  · intro h
    refine ⟨fun hmem => ?_, fun hmem => ?_⟩
    · simpa [isBreak] using h '\r' hmem
    · simpa [isBreak] using h '\n' hmem
  · rintro ⟨hreturn, hfeed⟩ c hc
    have hne : c ≠ '\r' ∧ c ≠ '\n' := ⟨fun h => hreturn (h ▸ hc), fun h => hfeed (h ▸ hc)⟩
    simp [isBreak, hne.1, hne.2]

def breaks : List Text :=
  [['\n'], ['\r', '\n'], ['\r']]

/-- Behind a break a new line begins. A carriage return alone is no whole break if a line feed
follows. -/
theorem split_break_append {lineBreak rest : Text} (hbreak : lineBreak ∈ breaks)
    (h : lineBreak = ['\r'] → rest.head? ≠ some '\n') :
    split (lineBreak ++ rest) = [] :: split rest := by
  simp only [breaks, List.mem_cons, List.not_mem_nil, or_false] at hbreak
  rcases hbreak with rfl | rfl | rfl
  · exact split_cons (by simp)
  · simp [split]
  · exact split_cons fun _ => h rfl

theorem head?_intercalate_return {lines : List Text} (h : ∀ line ∈ lines, BreakFree line) :
    (List.intercalate ['\r'] lines).head? ≠ some '\n' := by
  rcases lines with _ | ⟨line, lines⟩
  · simp
  · rcases line with _ | ⟨c, line⟩
    · cases lines <;> simp
    · have hc : c ≠ '\n' := by
        rintro rfl
        simpa [isBreak] using h _ List.mem_cons_self '\n' List.mem_cons_self
      cases lines <;> simpa using hc

theorem split_intercalate {lineBreak : Text} (hbreak : lineBreak ∈ breaks) {lines : List Text}
    (hne : lines ≠ []) (h : ∀ line ∈ lines, BreakFree line) :
    split (List.intercalate lineBreak lines) = lines := by
  induction lines with
  | nil => exact (hne rfl).elim
  | cons line lines ih =>
    have hline := h line List.mem_cons_self
    have hlines : ∀ other ∈ lines, BreakFree other := fun other hother =>
      h other (List.mem_cons_of_mem line hother)
    by_cases hlast : lines = []
    · subst hlast
      rw [List.intercalate_singleton, split_of_breakFree hline]
    · have hrest : split (lineBreak ++ List.intercalate lineBreak lines) = [] :: lines := by
        rw [split_break_append hbreak, ih hlast hlines]
        rintro rfl
        exact head?_intercalate_return hlines
      rw [List.intercalate_cons_of_ne_nil hlast, List.append_assoc,
        split_breakFree_append hline hrest]

end Line

open Text Line

/-- Splitting a text is splitting at the line feeds once every other break has been replaced by one.
So the lines have no breaks in them, the replacement changes no document, and lines without breaks
that are joined by breaks of one kind are found again. -/
theorem split_eq_splitOn_replaced (text : Text) :
    let replaced := replaceAll "\r".toList "\n".toList (replaceAll "\r\n".toList "\n".toList text)
    split text = splitOn '\n' replaced ∧
      (∀ line ∈ split text, '\r' ∉ line ∧ '\n' ∉ line) ∧
      (∀ settings, extractDocument settings text = extractDocument settings replaced) ∧
      ∀ lines ≠ [], (∀ line ∈ lines, '\r' ∉ line ∧ '\n' ∉ line) →
        ∀ lineBreak ∈ [['\n'], ['\r', '\n'], ['\r']],
          split (List.intercalate lineBreak lines) = lines := by
  intro replaced
  have hreplaced : replaced = normalise text := replaceAll_replaceAll_eq_normalise text
  rw [hreplaced]
  refine ⟨split_eq_splitOn_normalise text, ?_, ?_, ?_⟩
  · intro line hline
    exact breakFree_iff.mp (breakFree_of_mem_split hline)
  · intro settings
    rw [extractDocument, extractDocument, Extraction.ofText, Extraction.ofText, split_normalise]
  · intro lines hne hlines lineBreak hbreak
    exact split_intercalate hbreak hne fun line hline => breakFree_iff.mpr (hlines line hline)

/-- Carriage returns between lines of which two are empty. -/
theorem split_eq_splitOn_replaced_at_returns :
    let lines := ["// a", "", "", "x"].map String.toList
    lines ≠ [] ∧ (∀ line ∈ lines, '\r' ∉ line ∧ '\n' ∉ line) ∧
      List.intercalate ['\r'] lines = "// a\r\r\rx".toList ∧
      split (List.intercalate ['\r'] lines) = lines := by
  intro lines
  have hlines : ∀ line ∈ lines, '\r' ∉ line ∧ '\n' ∉ line := by decide
  refine ⟨by decide, hlines, by decide, ?_⟩
  exact (split_eq_splitOn_replaced []).2.2.2 lines (by decide) hlines ['\r'] (by decide)

end SlashDoc
