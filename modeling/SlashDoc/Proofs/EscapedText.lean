import Mathlib.Data.List.Permutation
import SlashDoc.Proofs.LineBreaks
import SlashDoc.Proofs.TableReading

/-!
# Escaped text

Escaping looks at every character once. Writing the entities one kind after the other gives the same
text as long as the ampersands come first; the order of the other characters does not matter. An
ampersand in an escaped text always begins the entity of a character of the text.
-/
namespace SlashDoc

namespace Text

theorem replaceAll_singleton (c : Char) (new text : Text) :
    replaceAll [c] new text = text.flatMap fun d => if d = c then new else [d] := by
  change replaceWord c [] new text = _
  induction text with
  | nil => simp [replaceWord]
  | cons d text ih =>
    rw [List.flatMap_cons, ← ih]
    by_cases hd : d = c
    · subst hd
      simpa using replaceWord_append d [] new text
    · rw [replaceWord_cons fun h => (hd h).elim, if_neg hd, List.singleton_append]

end Text

namespace Html

open Text

def special : Text := ['&', '<', '>', '"']

theorem entity_of_notMem {c : Char} (h : c ∉ special) : entity c = [c] := by
  unfold entity
  split <;> simp_all [special]

theorem notMem_escape {c : Char} (h : isMarkup c = true) (text : Text) : c ∉ escape text := by
  intro hmem
  cases h.symm.trans (isMarkup_of_mem_escape hmem)

/-- The text with one character after the other replaced by its entity, in the given order. -/
def replaceInTurn (order text : Text) : Text :=
  order.foldl (fun text c => replaceAll [c] (entity c) text) text

/-- No entity that is written has a character in it that is replaced later, so every character of
the text is replaced once. -/
theorem replaceInTurn_eq_flatMap {order : Text} (h : order.Pairwise fun c d => d ∉ entity c)
    (text : Text) :
    replaceInTurn order text = text.flatMap fun c => if c ∈ order then entity c else [c] := by
  induction order generalizing text with
  | nil => simp [replaceInTurn]
  | cons c order ih =>
    obtain ⟨hfirst, horder⟩ := List.pairwise_cons.mp h
    have hentity :
        ((entity c).flatMap fun d => if d ∈ order then entity d else [d]) = entity c := by
      have hkept : ∀ d ∈ entity c, (if d ∈ order then entity d else [d]) = [d] :=
        fun d hd => if_neg fun hmem => hfirst d hmem hd
      rw [List.flatMap_congr hkept, List.flatMap_singleton']
    calc replaceInTurn (c :: order) text
        = replaceInTurn order (replaceAll [c] (entity c) text) := rfl
      _ = text.flatMap fun d => (if d = c then entity c else [d]).flatMap
            fun e => if e ∈ order then entity e else [e] := by
          rw [ih horder, replaceAll_singleton, List.flatMap_assoc]
      _ = text.flatMap fun d => if d ∈ c :: order then entity d else [d] := by
          apply List.flatMap_congr
          intro d _
          by_cases hd : d = c
          · subst hd
            simpa using hentity
          · simp [hd]

theorem replaceInTurn_of_perm {others : Text} (h : others.Perm ['<', '>', '"']) (text : Text) :
    replaceInTurn ('&' :: others) text = escape text := by
  have hmarkup : ∀ d ∈ others, isMarkup d = true := by
    intro d hd
    have hmem := h.subset hd
    simp only [List.mem_cons, List.not_mem_nil, or_false] at hmem
    rcases hmem with rfl | rfl | rfl
    · rfl
    · rfl
    · rfl
  -- The other three characters stand in no entity at all.
  have hfree : ∀ c, ∀ d ∈ others, d ∉ entity c := by
    intro c d hd hmem
    cases (hmarkup d hd).symm.trans (isMarkup_of_mem_entity hmem)
  have horder : ('&' :: others).Pairwise fun c d => d ∉ entity c := by
    rw [List.pairwise_cons]
    exact ⟨hfree '&', List.pairwise_of_forall_mem_list fun c _ d hd => hfree c d hd⟩
  rw [replaceInTurn_eq_flatMap horder, escape]
  apply List.flatMap_congr
  intro c _
  by_cases hc : c ∈ '&' :: others
  · rw [if_pos hc]
  · rw [if_neg hc, entity_of_notMem]
    exact fun hmem => hc ((h.cons '&').mem_iff.mpr hmem)

/-- An order that begins with another character spoils the entities of that character. -/
theorem head?_of_replaceInTurn {order : Text} (h : order.Perm special)
    (hescape : ∀ text, replaceInTurn order text = escape text) : order.head? = some '&' := by
  have hall : (List.permutations' special).all (fun order =>
      order.head? = some '&' ||
        order.foldl (fun text c => text.flatMap fun d => if d = c then entity c else [d])
          ['<', '>', '"'] ≠ escape ['<', '>', '"']) = true := by
    decide +kernel
  have horder := List.all_eq_true.mp hall order (List.mem_permutations'.mpr h)
  have htext := hescape ['<', '>', '"']
  simp only [replaceInTurn, replaceAll_singleton] at htext
  simpa [htext] using horder

theorem amp_notMem_tail_entity (c : Char) : '&' ∉ (entity c).tail := by
  unfold entity
  split
  · decide
  · decide
  · decide
  · decide
  · exact List.not_mem_nil

/-- An ampersand of an escaped text is where the entity of a character of the text begins. -/
theorem exists_of_escape_eq {text front rest : Text} (h : escape text = front ++ '&' :: rest) :
    ∃ before c after, text = before ++ c :: after ∧ c ∈ special ∧ front = escape before ∧
      '&' :: rest = entity c ++ escape after := by
  induction text generalizing front with
  | nil => simp [escape] at h
  | cons c text ih =>
    have hcons : escape (c :: text) = entity c ++ escape text := rfl
    -- Where an ampersand stands behind the first entity, it is one of the other characters'.
    have hlater : ∀ middle, front = entity c ++ middle → escape text = middle ++ '&' :: rest →
        ∃ before d after, c :: text = before ++ d :: after ∧ d ∈ special ∧ front = escape before ∧
          '&' :: rest = entity d ++ escape after := by
      intro middle hfront htext
      obtain ⟨before, d, after, rfl, hd, rfl, hrest⟩ := ih htext
      exact ⟨c :: before, d, after, rfl, hd, hfront, hrest⟩
    rw [hcons] at h
    rcases List.append_eq_append_iff.mp h with ⟨middle, hfront, htext⟩ | ⟨middle, hentity, hrest⟩
    · exact hlater middle hfront htext
    · rcases middle with _ | ⟨d, middle⟩
      · exact hlater [] (by simpa using hentity.symm) hrest.symm
      · obtain ⟨rfl, -⟩ := List.cons.inj hrest
        rcases front with _ | ⟨e, front⟩
        · refine ⟨[], c, text, rfl, ?_, rfl, by simpa [hentity] using hrest⟩
          by_contra hc
          rw [entity_of_notMem hc] at hentity
          obtain ⟨rfl, -⟩ := List.cons.inj hentity
          exact hc (by decide)
        · refine absurd ?_ (amp_notMem_tail_entity c)
          rw [hentity]
          simp

theorem entities_replaced_in_turn :
    (∀ others : Text, others.Perm ['<', '>', '"'] → ∀ text,
      replaceInTurn others (replaceAll "&".toList "&amp;".toList text) = escape text) ∧
      (∀ order : Text, order.Perm special → (∀ text, replaceInTurn order text = escape text) →
        order.head? = some '&') ∧
      (∀ text, unescape (escape text) = text) ∧
      (∀ text, '<' ∉ escape text ∧ '>' ∉ escape text ∧ '"' ∉ escape text) ∧
      ∀ text front rest, escape text = front ++ '&' :: rest →
        ∃ before c after, text = before ++ c :: after ∧ c ∈ special ∧ front = escape before ∧
          '&' :: rest = entity c ++ escape after := by
  refine ⟨?_, ?_, unescape_escape, ?_, ?_⟩
  · intro others hothers text
    exact replaceInTurn_of_perm hothers text
  · intro order horder hescape
    exact head?_of_replaceInTurn horder hescape
  · intro text
    exact ⟨notMem_escape rfl text, notMem_escape rfl text, notMem_escape rfl text⟩
  · intro text front rest h
    exact exists_of_escape_eq h

/-- A text that already has an entity in it, and an ampersand that does not begin one. -/
theorem entities_replaced_in_turn_around_entity :
    let others : Text := ['"', '>', '<']
    let text : Text := "&lt;<&".toList
    let rest : Text := "lt;&amp;".toList
    (others.Perm ['<', '>', '"'] ∧
        replaceInTurn others (replaceAll "&".toList "&amp;".toList text) =
          "&amp;lt;&lt;&amp;".toList) ∧
      (special.Perm special ∧ (∀ text, replaceInTurn special text = escape text) ∧
        special.head? = some '&') ∧
      unescape "&amp;lt;&lt;&amp;".toList = text ∧
      escape text = "&amp;lt;".toList ++ '&' :: rest ∧
      ∃ before c after, text = before ++ c :: after ∧ c ∈ special ∧
        "&amp;lt;".toList = escape before ∧ '&' :: rest = entity c ++ escape after := by
  intro others text rest
  obtain ⟨hinTurn, hfirst, hback, -, hamp⟩ := entities_replaced_in_turn
  have hothers : others.Perm ['<', '>', '"'] := by decide
  have hescape : escape text = "&amp;lt;&lt;&amp;".toList := by decide
  have hspecial : ∀ text, replaceInTurn special text = escape text := hinTurn _ (.refl _)
  refine ⟨⟨hothers, (hinTurn others hothers text).trans hescape⟩,
    ⟨.refl _, hspecial, hfirst special (.refl _) hspecial⟩, ?_, hescape,
    hamp text _ rest hescape⟩
  rw [← hescape]
  exact hback text

end Html

end SlashDoc
