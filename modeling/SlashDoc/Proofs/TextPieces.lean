import Mathlib.Data.List.TakeWhile
import SlashDoc.Text.Basic

/-!
# Pieces of text

What the small readers of text give: what follows a word, the first place where something is
recognised, the run of characters up to another kind of character, the line that ends a text, the
part through the last place of a character, and the pieces between separators.
-/
namespace SlashDoc.Text

theorem after?_eq_some_iff {word text rest : Text} :
    after? word text = some rest ↔ text = word ++ rest := by
  fun_induction after? word text with
  | case1 text => simp
  | case2 => simp
  | case3 c word text ih => simpa using ih
  | case4 w word c text hne => simpa using fun h => absurd h.symm hne

theorem after?_append (word rest : Text) : after? word (word ++ rest) = some rest :=
  after?_eq_some_iff.mpr rfl

theorem search_of_some {α : Type} {recognise : Text → Option α} {text : Text} {found : α}
    (h : recognise text = some found) : search recognise text = some ([], found) := by
  cases text <;> simp [search, h]

theorem search_eq_none_iff {α : Type} {recognise : Text → Option α} {text : Text} :
    search recognise text = none ↔ ∀ rest, rest <:+ text → recognise rest = none := by
  induction text with
  | nil => simp [search]
  | cons c text ih =>
    simp only [List.suffix_cons_iff, forall_eq_or_imp, ← ih]
    cases h : recognise (c :: text) <;> simp [search, h]

theorem search_cons_of_none {α : Type} {recognise : Text → Option α} {c : Char} {text : Text}
    (h : recognise (c :: text) = none) :
    search recognise (c :: text) =
      (search recognise text).map fun (before, found) => (c :: before, found) := by
  rw [search, h]

/-- What is found was recognised at no place before. -/
theorem search_eq_some_iff {α : Type} {recognise : Text → Option α} {text before : Text}
    {found : α} :
    search recognise text = some (before, found) ↔
      ∃ rest, text = before ++ rest ∧ recognise rest = some found ∧
        ∀ front back, text = front ++ back → front.length < before.length →
          recognise back = none := by
  induction text generalizing before with
  | nil =>
    rw [search, Option.map_eq_some_iff]
    constructor
    · rintro ⟨_, hfound, heq⟩
      obtain ⟨rfl, rfl⟩ := Prod.mk.inj heq
      exact ⟨[], rfl, hfound, by simp⟩
    · rintro ⟨rest, htext, hfound, -⟩
      obtain ⟨rfl, rfl⟩ := List.append_eq_nil_iff.mp htext.symm
      exact ⟨found, hfound, rfl⟩
  | cons c text ih =>
    cases hhere : recognise (c :: text) with
    | some here =>
      rw [search_of_some hhere, Option.some_inj, Prod.mk.injEq]
      constructor
      · rintro ⟨rfl, rfl⟩
        exact ⟨c :: text, rfl, hhere, by simp⟩
      · rintro ⟨rest, htext, hfound, hfirst⟩
        rcases before with _ | ⟨d, before⟩
        · rw [List.nil_append] at htext
          rw [← htext, hhere] at hfound
          exact ⟨rfl, Option.some.inj hfound⟩
        · have hnone := hfirst [] (c :: text) rfl (by simp)
          rw [hhere] at hnone
          cases hnone
    | none =>
      rw [search_cons_of_none hhere, Option.map_eq_some_iff]
      constructor
      · rintro ⟨⟨front, later⟩, hlater, heq⟩
        obtain ⟨rfl, rfl⟩ := Prod.mk.inj heq
        obtain ⟨rest, htext, hfound, hfirst⟩ := ih.mp hlater
        refine ⟨rest, by rw [htext]; rfl, hfound, ?_⟩
        intro early back hback hlength
        rcases early with _ | ⟨d, early⟩
        · rw [List.nil_append] at hback
          rw [← hback, hhere]
        · exact hfirst early back (List.cons.inj hback).2 (Nat.lt_of_succ_lt_succ hlength)
      · rintro ⟨rest, htext, hfound, hfirst⟩
        rcases before with _ | ⟨d, before⟩
        · rw [List.nil_append] at htext
          rw [← htext, hhere] at hfound
          cases hfound
        · obtain ⟨rfl, htail⟩ := List.cons.inj htext
          refine ⟨(before, found), ih.mpr ⟨rest, htail, hfound, ?_⟩, rfl⟩
          intro front back hback hlength
          exact hfirst (c :: front) back (by rw [hback]; rfl) (Nat.succ_lt_succ hlength)

theorem bne_of_notMem {c : Char} {text : Text} (h : c ∉ text) : ∀ d ∈ text, (d != c) = true := by
  intro d hd
  rw [bne_iff_ne]
  rintro rfl
  exact h hd

theorem takeWhile_run {p : Char → Bool} {run rest : Text} (hrun : ∀ c ∈ run, p c = true)
    (hrest : ∀ c ∈ rest.head?, p c = false) : (run ++ rest).takeWhile p = run := by
  rw [List.takeWhile_append_of_pos hrun]
  cases rest with
  | nil => simp
  | cons c rest => simp [hrest c rfl]

theorem dropWhile_run {p : Char → Bool} {run rest : Text} (hrun : ∀ c ∈ run, p c = true)
    (hrest : ∀ c ∈ rest.head?, p c = false) : (run ++ rest).dropWhile p = rest := by
  rw [List.dropWhile_append_of_pos hrun]
  cases rest with
  | nil => rfl
  | cons c rest => simp [hrest c rfl]

structure MaximalRun (p : Char → Bool) (run rest : Text) : Prop where
  all : ∀ c ∈ run, p c = true
  stops : ∀ c ∈ rest.head?, p c = false

theorem maximalRun_takeWhile (p : Char → Bool) (text : Text) :
    MaximalRun p (text.takeWhile p) (text.dropWhile p) := by
  constructor
  · intro c hc
    exact List.mem_takeWhile_imp hc
  · intro c hc
    have hhead := List.head?_dropWhile_not p text
    rw [Option.mem_def.mp hc] at hhead
    simpa using hhead

theorem takeWhile_append_of_dropWhile {p : Char → Bool} {text rest : Text}
    (h : text.dropWhile p = rest) : text.takeWhile p ++ rest = text := by
  rw [← h, List.takeWhile_append_dropWhile]

theorem maximalRun_of_head? {p : Char → Bool} {run rest : Text} {c : Char}
    (hrun : ∀ d ∈ run, p d = true) (hhead : rest.head? = some c) (hc : p c = false) :
    MaximalRun p run rest := by
  refine ⟨hrun, ?_⟩
  intro d hd
  obtain rfl : c = d := Option.some.inj (hhead.symm.trans hd)
  exact hc

theorem MaximalRun.append {p : Char → Bool} {run next : Text} (h : MaximalRun p run next)
    (hne : next ≠ []) (rest : Text) : MaximalRun p run (next ++ rest) := by
  obtain ⟨c, next, rfl⟩ := List.exists_cons_of_ne_nil hne
  exact maximalRun_of_head? h.all rfl (h.stops c rfl)

theorem MaximalRun.takeWhile_eq {p : Char → Bool} {text run rest : Text}
    (h : MaximalRun p run rest) (htext : text = run ++ rest) : text.takeWhile p = run := by
  rw [htext, takeWhile_run h.all h.stops]

theorem MaximalRun.dropWhile_eq {p : Char → Bool} {text run rest : Text}
    (h : MaximalRun p run rest) (htext : text = run ++ rest) : text.dropWhile p = rest := by
  rw [htext, dropWhile_run h.all h.stops]

theorem MaximalRun.takeWhile_rest {p : Char → Bool} {run rest : Text} (h : MaximalRun p run rest) :
    rest.takeWhile p = [] := by
  have hnone : MaximalRun p [] rest := ⟨by simp, h.stops⟩
  exact hnone.takeWhile_eq rfl

theorem MaximalRun.dropWhile_rest {p : Char → Bool} {run rest : Text} (h : MaximalRun p run rest) :
    rest.dropWhile p = rest := by
  have hnone : MaximalRun p [] rest := ⟨by simp, h.stops⟩
  exact hnone.dropWhile_eq rfl

/-- A line with all that follows it: nothing, or a line feed that ends the text. -/
def EndsLine (line tail : Text) : Prop :=
  '\n' ∉ line ∧ (tail = line ∨ tail = line ++ ['\n'])

theorem singleLine?_eq_some_iff {tail line : Text} :
    singleLine? tail = some line ↔ EndsLine line tail := by
  have hcut : tail.takeWhile (· != '\n') ++ tail.dropWhile (· != '\n') = tail :=
    List.takeWhile_append_dropWhile
  constructor
  · intro h
    have hfree : '\n' ∉ tail.takeWhile (· != '\n') := by
      intro hmem
      simpa using List.mem_takeWhile_imp hmem
    unfold singleLine? at h
    split at h
    · rename_i hdrop
      obtain rfl := Option.some.inj h
      rw [hdrop, List.append_nil] at hcut
      exact ⟨hfree, .inl hcut.symm⟩
    · rename_i hdrop
      obtain rfl := Option.some.inj h
      rw [hdrop] at hcut
      exact ⟨hfree, .inr hcut.symm⟩
    · cases h
  · rintro ⟨hfree, rfl | rfl⟩
    · have hrun : MaximalRun (· != '\n') tail [] := ⟨bne_of_notMem hfree, by simp⟩
      have hself : tail = tail ++ [] := (List.append_nil tail).symm
      simp [singleLine?, hrun.dropWhile_eq hself, hrun.takeWhile_eq hself]
    · have hrun : MaximalRun (· != '\n') line ['\n'] := ⟨bne_of_notMem hfree, by simp⟩
      simp [singleLine?, hrun.dropWhile_eq rfl, hrun.takeWhile_eq rfl]

theorem endsLine_iff {line tail : Text} :
    EndsLine line tail ↔
      '\n' ∉ tail.dropLast ∧ line = if tail.getLast? = some '\n' then tail.dropLast else tail := by
  constructor
  · rintro ⟨hfree, rfl | rfl⟩
    · have hlast : tail.getLast? ≠ some '\n' := by
        intro hlast
        exact hfree (List.mem_of_getLast? hlast)
      exact ⟨fun hmem => hfree (List.dropLast_subset tail hmem), (if_neg hlast).symm⟩
    · simpa using hfree
  · rintro ⟨hfree, rfl⟩
    by_cases hlast : tail.getLast? = some '\n'
    · obtain ⟨front, rfl⟩ := List.getLast?_eq_some_iff.mp hlast
      rw [if_pos hlast]
      rw [List.dropLast_concat] at hfree ⊢
      exact ⟨hfree, .inr rfl⟩
    · rw [if_neg hlast]
      refine ⟨?_, .inl rfl⟩
      intro hmem
      rcases List.eq_nil_or_concat tail with rfl | ⟨front, c, htail⟩
      · cases hmem
      · rw [List.concat_eq_append] at htail
        subst htail
        rw [List.dropLast_concat] at hfree
        rcases List.mem_append.mp hmem with hmem | hmem
        · exact hfree hmem
        · obtain rfl := List.mem_singleton.mp hmem
          exact hlast (List.getLast?_concat ..)

/-- The end of a line is the end of a line wherever it is cut off. -/
theorem EndsLine.suffix {line tail rest : Text} (h : EndsLine line tail) (hrest : rest <:+ tail) :
    ∃ part, EndsLine part rest := by
  refine ⟨_, endsLine_iff.mpr ⟨?_, rfl⟩⟩
  obtain ⟨front, rfl⟩ := hrest
  intro hmem
  have hne : rest ≠ [] := by
    rintro rfl
    cases hmem
  apply (endsLine_iff.mp h).1
  rw [List.dropLast_append_of_ne_nil hne]
  exact List.mem_append_right front hmem

/-- A text through the last place where a character stands; nothing if it stands nowhere. -/
def throughLast (c : Char) (text : Text) : Text :=
  dropEndWhile (· != c) text

theorem throughLast_eq_nil_iff {c : Char} {text : Text} : throughLast c text = [] ↔ c ∉ text := by
  simp only [throughLast, dropEndWhile, List.reverse_eq_nil_iff, List.dropWhile_eq_nil_iff,
    List.mem_reverse, bne_iff_ne]
  exact ⟨fun h hmem => h c hmem rfl, fun h d hd heq => h (heq ▸ hd)⟩

theorem throughLast_append_cons (c : Char) (front back : Text) :
    throughLast c (front ++ c :: back) = front ++ c :: throughLast c back := by
  have hstop : (c :: front.reverse).dropWhile (· != c) = c :: front.reverse := by simp
  have hreverse : (front ++ c :: back).reverse = back.reverse ++ c :: front.reverse := by simp
  unfold throughLast dropEndWhile
  rw [hreverse, List.dropWhile_append]
  by_cases hback : (back.reverse.dropWhile (· != c)) = []
  · rw [hback, if_pos List.isEmpty_nil, hstop]
    simp
  · rw [if_neg (by simpa using hback)]
    simp

theorem exists_last_of_mem {c : Char} {text : Text} (h : c ∈ text) :
    ∃ front back, text = front ++ c :: back ∧ c ∉ back := by
  obtain ⟨back, front, hreverse, hback⟩ := List.eq_append_cons_of_mem (List.mem_reverse.mpr h)
  refine ⟨front.reverse, back.reverse, ?_, by simpa using hback⟩
  rw [← List.reverse_reverse text, hreverse]
  simp

theorem splitOn_eq (separator : Char) (text : Text) :
    splitOn separator text = List.splitOn separator text := by
  induction text with
  | nil => rfl
  | cons c rest ih =>
    have hne : List.splitOn separator rest ≠ [] := List.splitOn_ne_nil separator rest
    rw [splitOn, ih, List.splitOn_cons_eq_if_modifyHead]
    obtain ⟨piece, pieces, hpieces⟩ := List.exists_cons_of_ne_nil hne
    simp [hpieces, extendHead]

theorem splitOn_ne_nil (separator : Char) (text : Text) : splitOn separator text ≠ [] := by
  rw [splitOn_eq]
  exact List.splitOn_ne_nil separator text

theorem splitOn_intercalate {separator : Char} {pieces : List Text} (hne : pieces ≠ [])
    (h : ∀ piece ∈ pieces, separator ∉ piece) :
    splitOn separator (List.intercalate [separator] pieces) = pieces := by
  rw [splitOn_eq]
  exact List.splitOn_intercalate separator h hne

theorem intercalate_singleton_cons (c : Char) (first : Text) (pieces : List Text) :
    List.intercalate [c] (first :: pieces) = first ++ pieces.flatMap (c :: ·) := by
  induction pieces generalizing first with
  | nil => simp
  | cons piece pieces ih =>
    rw [List.intercalate_cons_of_ne_nil (List.cons_ne_nil _ _), ih]
    simp

theorem splitOn_of_notMem {separator : Char} {text : Text} (h : separator ∉ text) :
    splitOn separator text = [text] := by
  simpa using splitOn_intercalate (List.cons_ne_nil text []) (by simpa using h)

theorem splitOn_append_cons (separator : Char) (front back : Text) :
    splitOn separator (front ++ separator :: back) =
      splitOn separator front ++ splitOn separator back := by
  induction front with
  | nil => simp [splitOn]
  | cons c front ih =>
    rw [List.cons_append, splitOn, splitOn, ih]
    by_cases hc : c = separator
    · simp [hc]
    · obtain ⟨piece, pieces, hpieces⟩ :=
        List.exists_cons_of_ne_nil (splitOn_ne_nil separator front)
      simp [hc, hpieces, extendHead]

theorem unlines_splitOn (text : Text) : unlines (splitOn '\n' text) = text := by
  rw [splitOn_eq]
  exact List.intercalate_splitOn '\n'

theorem notMem_of_mem_splitOn {separator : Char} {text piece : Text}
    (h : piece ∈ splitOn separator text) : separator ∉ piece := by
  induction text generalizing piece with
  | nil =>
    obtain rfl := List.mem_singleton.mp h
    exact List.not_mem_nil
  | cons c rest ih =>
    obtain ⟨first, pieces, hpieces⟩ := List.exists_cons_of_ne_nil (splitOn_ne_nil separator rest)
    rw [hpieces] at ih
    rw [splitOn, hpieces] at h
    by_cases hc : c = separator
    · rw [if_pos hc] at h
      rcases List.mem_cons.mp h with rfl | h
      · exact List.not_mem_nil
      · exact ih h
    · rw [if_neg hc] at h
      rcases List.mem_cons.mp h with rfl | h
      · intro hmem
        rcases List.mem_cons.mp hmem with heq | hmem
        · exact hc heq.symm
        · exact ih List.mem_cons_self hmem
      · exact ih (List.mem_cons_of_mem first h)

end SlashDoc.Text
