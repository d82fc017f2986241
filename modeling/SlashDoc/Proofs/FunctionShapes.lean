import SlashDoc.Line
import SlashDoc.Proofs.TextPieces

/-!
# Where functions are found in a line

A line can often be cut in more than one way into the parts of a function. Each part ends where the
next one begins, so at one place the cuts differ only in where the parameter list ends; the longest
list is taken. Of several places the first one counts, and a bound name is never found without the
characters in front of it.
-/
namespace SlashDoc

open Text

def IsParameterList (params : Text) : Prop :=
  ∃ inner, params = '(' :: (inner ++ [')']) ∧ '\n' ∉ inner

def ClosesNone (after : Text) : Prop :=
  ')' ∉ after.takeWhile (· != '\n')

theorem takeWhile_feed_append {front : Text} (h : '\n' ∉ front) (back : Text) :
    (front ++ back).takeWhile (· != '\n') = front ++ back.takeWhile (· != '\n') :=
  List.takeWhile_append_of_pos (bne_of_notMem h)

theorem exists_last_closing {text : Text} (h : ¬ClosesNone text) :
    ∃ inner after, text = inner ++ ')' :: after ∧ '\n' ∉ inner ∧ ClosesNone after := by
  have hmem : ')' ∈ text.takeWhile (· != '\n') := not_not.mp h
  obtain ⟨inner, back, hline, hback⟩ := exists_last_of_mem hmem
  have hrun := maximalRun_takeWhile (· != '\n') text
  have hfree : '\n' ∉ inner ∧ '\n' ∉ back := by
    have hall := hrun.all '\n'
    rw [hline] at hall
    constructor <;> intro hfeed <;> simpa using hall (by simp [hfeed])
  refine ⟨inner, back ++ text.dropWhile (· != '\n'), ?_, hfree.1, ?_⟩
  · calc text = text.takeWhile (· != '\n') ++ text.dropWhile (· != '\n') :=
          List.takeWhile_append_dropWhile.symm
      _ = inner ++ ')' :: (back ++ text.dropWhile (· != '\n')) := by
          rw [hline, List.append_assoc, List.cons_append]
  · rw [ClosesNone, takeWhile_feed_append hfree.2, hrun.takeWhile_rest, List.append_nil]
    exact hback

theorem parameterList?_of_last {inner after : Text} (hinner : '\n' ∉ inner)
    (hafter : ClosesNone after) :
    parameterList? ('(' :: (inner ++ ')' :: after)) = some ('(' :: (inner ++ [')'])) := by
  have hline : (inner ++ ')' :: after).takeWhile (· != '\n') =
      inner ++ ')' :: after.takeWhile (· != '\n') :=
    takeWhile_feed_append hinner (')' :: after)
  have hlast : dropEndWhile (· != ')') (inner ++ ')' :: after.takeWhile (· != '\n')) =
      inner ++ [')'] := by
    rw [← throughLast, throughLast_append_cons, throughLast_eq_nil_iff.mpr hafter]
  simp only [parameterList?, hline, hlast]
  cases inner <;> rfl

theorem parameterList?_of_closesNone {rest : Text} (h : ClosesNone rest) :
    parameterList? ('(' :: rest) = none := by
  have hnone : dropEndWhile (· != ')') (rest.takeWhile (· != '\n')) = [] :=
    throughLast_eq_nil_iff.mpr h
  simp only [parameterList?, hnone]

/-- The parameter list is the longest one that its line allows. -/
theorem parameterList?_eq_some_iff {text params : Text} :
    parameterList? text = some params ↔
      ∃ after, text = params ++ after ∧ IsParameterList params ∧ ClosesNone after := by
  constructor
  · intro h
    obtain ⟨rest, rfl⟩ : ∃ rest, text = '(' :: rest := by
      unfold parameterList? at h
      split at h
      · exact ⟨_, rfl⟩
      · cases h
    by_cases hrest : ClosesNone rest
    · rw [parameterList?_of_closesNone hrest] at h
      cases h
    · obtain ⟨inner, after, rfl, hinner, hafter⟩ := exists_last_closing hrest
      rw [parameterList?_of_last hinner hafter] at h
      obtain rfl := Option.some.inj h
      exact ⟨after, by simp, ⟨inner, rfl, hinner⟩, hafter⟩
  · rintro ⟨after, rfl, ⟨inner, rfl, hinner⟩, hafter⟩
    have hlist := parameterList?_of_last hinner hafter
    simpa using hlist

theorem IsParameterList.exists_parameterList? {params : Text} (h : IsParameterList params)
    (after : Text) : ∃ longest, parameterList? (params ++ after) = some longest := by
  obtain ⟨inner, rfl, hinner⟩ := h
  have hopen : ¬ClosesNone (inner ++ ')' :: after) := by
    intro hnone
    apply hnone
    rw [takeWhile_feed_append hinner]
    simp
  obtain ⟨front, back, heq, hfront, hback⟩ := exists_last_closing hopen
  have htext : '(' :: (inner ++ [')']) ++ after = '(' :: (front ++ ')' :: back) := by
    simp [← heq]
  rw [htext, parameterList?_of_last hfront hback]
  exact ⟨_, rfl⟩

theorem IsParameterList.ne_nil {params : Text} (h : IsParameterList params) : params ≠ [] := by
  obtain ⟨inner, rfl, -⟩ := h
  exact List.cons_ne_nil _ _

theorem IsParameterList.head? {params : Text} (h : IsParameterList params) :
    params.head? = some '(' := by
  obtain ⟨inner, rfl, -⟩ := h
  rfl

/-- Of all the records that fit, the one that stands first in a line, in its longest form. -/
structure IsFirstFit {α : Type} (covered : α → Text) (Fits : α → Prop) (line before : Text)
    (found : α) : Prop where
  fits : Fits found
  stands : ∃ after, line = before ++ covered found ++ after ∧ ClosesNone after
  first : ∀ earlier other after, Fits other → line = earlier ++ covered other ++ after →
    before.length ≤ earlier.length

/-- A reader that takes what fits, in its longest form. -/
structure ReadsLongest {α : Type} (recognise : Text → Option α) (covered : α → Text)
    (Fits : α → Prop) : Prop where
  some_iff : ∀ text found, recognise text = some found ↔
    Fits found ∧ ∃ after, text = covered found ++ after ∧ ClosesNone after
  ne_none : ∀ found after, Fits found → recognise (covered found ++ after) ≠ none

namespace ReadsLongest

variable {α : Type} {recognise : Text → Option α} {covered : α → Text} {Fits : α → Prop}
  {line text before : Text} {found : α}

theorem eq_none_iff (h : ReadsLongest recognise covered Fits) :
    recognise text = none ↔ ∀ found after, Fits found → text ≠ covered found ++ after := by
  constructor
  · rintro hnone found after hfits rfl
    exact h.ne_none found after hfits hnone
  · intro hne
    cases hread : recognise text with
    | none => rfl
    | some found =>
      obtain ⟨hfits, after, htext, -⟩ := (h.some_iff text found).mp hread
      exact absurd htext (hne found after hfits)

theorem exists_search_iff (h : ReadsLongest recognise covered Fits) :
    (∃ place, search recognise line = some place) ↔
      ∃ before found after, Fits found ∧ line = before ++ covered found ++ after := by
  constructor
  · rintro ⟨⟨before, found⟩, hplace⟩
    obtain ⟨text, rfl, hread, -⟩ := search_eq_some_iff.mp hplace
    obtain ⟨hfits, after, rfl, -⟩ := (h.some_iff text found).mp hread
    exact ⟨before, found, after, hfits, (List.append_assoc ..).symm⟩
  · rintro ⟨before, found, after, hfits, rfl⟩
    rw [List.append_assoc]
    by_contra hnone
    rw [← Option.isSome_iff_exists, Option.not_isSome_iff_eq_none, search_eq_none_iff] at hnone
    exact h.ne_none found after hfits (hnone _ (List.suffix_append before _))

theorem search_eq_some_iff (h : ReadsLongest recognise covered Fits) :
    search recognise line = some (before, found) ↔
      IsFirstFit covered Fits line before found := by
  rw [Text.search_eq_some_iff]
  constructor
  · rintro ⟨text, rfl, hfound, hfirst⟩
    obtain ⟨hfits, after, rfl, hafter⟩ := (h.some_iff text found).mp hfound
    refine ⟨hfits, ⟨after, (List.append_assoc ..).symm, hafter⟩, ?_⟩
    intro earlier other rest hother hline
    by_contra hlength
    rw [List.append_assoc earlier] at hline
    have hnone := hfirst earlier _ hline (Nat.lt_of_not_le hlength)
    exact h.ne_none other rest hother hnone
  · rintro ⟨hfits, ⟨after, hline, hafter⟩, hfirst⟩
    refine ⟨covered found ++ after, by rw [hline, List.append_assoc], ?_, ?_⟩
    · exact (h.some_iff _ found).mpr ⟨hfits, after, rfl, hafter⟩
    · intro earlier text hearlier hlength
      rw [h.eq_none_iff]
      rintro other rest hother rfl
      rw [← List.append_assoc] at hearlier
      exact Nat.not_le_of_lt hlength (hfirst earlier other rest hother hearlier)

end ReadsLongest

namespace BoundFunction

structure Fits (found : BoundFunction) : Prop where
  name_ne_nil : found.name ≠ []
  name : ∀ c ∈ found.name, isNameChar c = true
  gap : ∀ c ∈ found.gap, isBlank c = true
  filler : ∀ c ∈ found.filler, isWord c = false
  space : ∀ c ∈ found.space, isBlank c = true
  params : IsParameterList found.params

structure Maximal (found : BoundFunction) : Prop where
  name : MaximalRun isNameChar found.name (found.gap ++ ['='])
  gap : MaximalRun isBlank found.gap ['=']
  filler : MaximalRun (!isWord ·) found.filler "function".toList
  space : MaximalRun isBlank found.space found.params

variable {found : BoundFunction} {line text before after : Text}

theorem Fits.maximal (h : found.Fits) : found.Maximal := by
  constructor
  · cases hgap : found.gap with
    | nil => exact maximalRun_of_head? h.name rfl (by decide)
    | cons c gap =>
      have hblank := h.gap c (by simp [hgap])
      exact maximalRun_of_head? h.name rfl (by simp [isNameChar, hblank])
  · exact maximalRun_of_head? h.gap rfl (by decide)
  · have hfiller : ∀ c ∈ found.filler, (!isWord c) = true := by
      intro c hc
      simp [h.filler c hc]
    exact maximalRun_of_head? hfiller rfl (by decide)
  · exact maximalRun_of_head? h.space h.params.head? (by decide)

/-- Only the parameter list is left to be read: all parts before it are fixed by their places. -/
theorem Fits.start?_eq (h : found.Fits) (after : Text) :
    start? (found.text ++ after) =
      (parameterList? (found.params ++ after)).map fun params => { found with params } := by
  obtain ⟨rest, hrest⟩ : ∃ rest, rest = found.space ++ (found.params ++ after) := ⟨_, rfl⟩
  obtain ⟨filled, hfilled⟩ : ∃ filled, filled = found.filler ++ ("function".toList ++ rest) :=
    ⟨_, rfl⟩
  have htext : found.text ++ after = found.name ++ (found.gap ++ '=' :: filled) := by
    simp [BoundFunction.text, hfilled, hrest]
  have hname : MaximalRun isNameChar found.name (found.gap ++ '=' :: filled) := by
    simpa using h.maximal.name.append (by simp) filled
  have hgap : MaximalRun isBlank found.gap ('=' :: filled) :=
    h.maximal.gap.append (by simp) filled
  have hfiller := h.maximal.filler.append (by decide) rest
  have hspace := h.maximal.space.append h.params.ne_nil after
  have hequals : after? ['='] ('=' :: filled) = some filled := after?_append ['='] filled
  obtain ⟨c, name, hcons⟩ := List.exists_cons_of_ne_nil h.name_ne_nil
  unfold start?
  simp only [hname.takeWhile_eq htext, hname.dropWhile_eq htext, hgap.takeWhile_eq rfl,
    hgap.dropWhile_eq rfl, hequals, hfiller.takeWhile_eq hfilled, hfiller.dropWhile_eq hfilled,
    after?_append, hspace.takeWhile_eq hrest, hspace.dropWhile_eq hrest, Option.bind_eq_bind,
    Option.bind_some, hcons]
  cases parameterList? (found.params ++ after) <;> rfl

theorem start?_eq_some_iff :
    start? text = some found ↔
      found.Fits ∧ ∃ after, text = found.text ++ after ∧ ClosesNone after := by
  constructor
  · intro h
    simp only [start?, Option.bind_eq_bind, Option.bind_eq_some_iff] at h
    obtain ⟨filled, hfilled, rest, hrest, params, hparams, hname⟩ := h
    rw [after?_eq_some_iff] at hfilled hrest
    obtain ⟨after, htail, hlist, hafter⟩ := parameterList?_eq_some_iff.mp hparams
    cases hrun : text.takeWhile isNameChar with
    | nil => simp [hrun] at hname
    | cons c name =>
      simp only [hrun, Option.some.injEq] at hname
      subst hname
      constructor
      · refine ⟨List.cons_ne_nil c name, ?_, ?_, ?_, ?_, hlist⟩
        · intro d hd
          exact List.mem_takeWhile_imp (hrun ▸ hd)
        · intro d hd
          exact List.mem_takeWhile_imp hd
        · intro d hd
          simpa using List.mem_takeWhile_imp hd
        · intro d hd
          exact List.mem_takeWhile_imp hd
      · refine ⟨after, ?_, hafter⟩
        simp only [BoundFunction.text, List.append_assoc]
        rw [takeWhile_append_of_dropWhile htail, takeWhile_append_of_dropWhile hrest,
          takeWhile_append_of_dropWhile hfilled, ← hrun, takeWhile_append_of_dropWhile rfl]
  · rintro ⟨h, after, rfl, hafter⟩
    rw [h.start?_eq, parameterList?_eq_some_iff.mpr ⟨after, rfl, h.params, hafter⟩]
    rfl

theorem readsLongest : ReadsLongest start? BoundFunction.text Fits := by
  refine ⟨fun _ _ => start?_eq_some_iff, ?_⟩
  intro found after hfits hnone
  obtain ⟨longest, hlongest⟩ := hfits.params.exists_parameterList? after
  rw [hfits.start?_eq, hlongest] at hnone
  cases hnone

/-- A name that is found cannot be extended to the front, because it would have been found there. -/
theorem preceded_of_search (h : search start? line = some (before, found)) :
    ∀ c ∈ before.getLast?, isBlank c = true ∨ c = '=' := by
  intro c hc
  obtain ⟨hfits, ⟨after, hline, -⟩, hfirst⟩ := readsLongest.search_eq_some_iff.mp h
  obtain ⟨front, rfl⟩ := List.getLast?_eq_some_iff.mp hc
  by_contra hchar
  have hname : ∀ d ∈ c :: found.name, isNameChar d = true := by
    intro d hd
    rcases List.mem_cons.mp hd with rfl | hd
    · simpa [isNameChar] using hchar
    · exact hfits.name d hd
  have hlonger : ({ found with name := c :: found.name } : BoundFunction).Fits :=
    { hfits with name_ne_nil := List.cons_ne_nil c found.name, name := hname }
  have hlength := hfirst front _ after hlonger (by simp [hline, BoundFunction.text])
  rw [List.length_append, List.length_singleton] at hlength
  omega

end BoundFunction

namespace NamedFunction

structure Fits (found : NamedFunction) : Prop where
  gap_ne_nil : found.gap ≠ []
  gap : ∀ c ∈ found.gap, isBlank c = true
  name_ne_nil : found.name ≠ []
  name : ∀ c ∈ found.name, isNameChar c = true
  space : ∀ c ∈ found.space, isBlank c = true
  params : IsParameterList found.params

structure Maximal (found : NamedFunction) : Prop where
  gap : MaximalRun isBlank found.gap found.name
  name : MaximalRun isNameChar found.name (found.space ++ found.params)
  space : MaximalRun isBlank found.space found.params

variable {found : NamedFunction} {text : Text}

theorem Fits.maximal (h : found.Fits) : found.Maximal := by
  constructor
  · obtain ⟨c, name, hcons⟩ := List.exists_cons_of_ne_nil h.name_ne_nil
    have hchar := h.name c (by simp [hcons])
    simp only [isNameChar, Bool.and_eq_true, Bool.not_eq_true'] at hchar
    exact maximalRun_of_head? h.gap (by simp [hcons]) hchar.1
  · cases hspace : found.space with
    | nil => exact maximalRun_of_head? h.name h.params.head? (by decide)
    | cons c space =>
      have hblank := h.space c (by simp [hspace])
      exact maximalRun_of_head? h.name rfl (by simp [isNameChar, hblank])
  · exact maximalRun_of_head? h.space h.params.head? (by decide)

theorem Fits.start?_eq (h : found.Fits) (after : Text) :
    start? (found.text ++ after) =
      (parameterList? (found.params ++ after)).map fun params => { found with params } := by
  obtain ⟨rest, hrest⟩ : ∃ rest, rest = found.space ++ (found.params ++ after) := ⟨_, rfl⟩
  have htext : found.text ++ after =
      "function".toList ++ (found.gap ++ (found.name ++ rest)) := by
    unfold NamedFunction.text
    simp only [List.append_assoc, hrest]
  have hgap := h.maximal.gap.append h.name_ne_nil rest
  have hname : MaximalRun isNameChar found.name rest := by
    rw [hrest, ← List.append_assoc]
    exact h.maximal.name.append (by simp [h.params.ne_nil]) after
  have hspace := h.maximal.space.append h.params.ne_nil after
  unfold start?
  simp only [htext, after?_append, hgap.takeWhile_eq rfl, hgap.dropWhile_eq rfl,
    hname.takeWhile_eq rfl, hname.dropWhile_eq rfl, hspace.takeWhile_eq hrest,
    hspace.dropWhile_eq hrest, Option.bind_eq_bind, Option.bind_some]
  cases parameterList? (found.params ++ after) <;> simp [h.gap_ne_nil, h.name_ne_nil]

theorem start?_eq_some_iff :
    start? text = some found ↔
      found.Fits ∧ ∃ after, text = found.text ++ after ∧ ClosesNone after := by
  constructor
  · intro h
    simp only [start?, Option.bind_eq_bind, Option.bind_eq_some_iff] at h
    obtain ⟨spaced, hspaced, params, hparams, hname⟩ := h
    rw [after?_eq_some_iff] at hspaced
    obtain ⟨after, htail, hlist, hafter⟩ := parameterList?_eq_some_iff.mp hparams
    split at hname
    · cases hname
    · rename_i hne
      simp only [Bool.or_eq_true, decide_eq_true_eq, not_or] at hne
      obtain rfl := Option.some.inj hname
      constructor
      · refine ⟨hne.1, ?_, hne.2, ?_, ?_, hlist⟩ <;>
          · intro d hd
            exact List.mem_takeWhile_imp hd
      · refine ⟨after, ?_, hafter⟩
        unfold NamedFunction.text
        simp only [List.append_assoc]
        rw [takeWhile_append_of_dropWhile htail, takeWhile_append_of_dropWhile rfl,
          takeWhile_append_of_dropWhile rfl, hspaced]
  · rintro ⟨h, after, rfl, hafter⟩
    rw [h.start?_eq, parameterList?_eq_some_iff.mpr ⟨after, rfl, h.params, hafter⟩]
    rfl

theorem readsLongest : ReadsLongest start? NamedFunction.text Fits := by
  refine ⟨fun _ _ => start?_eq_some_iff, ?_⟩
  intro found after hfits hnone
  obtain ⟨longest, hlongest⟩ := hfits.params.exists_parameterList? after
  rw [hfits.start?_eq, hlongest] at hnone
  cases hnone

end NamedFunction

/-- A bound or a named function is found in a line exactly if the line can be cut into its parts
somewhere, and then at the first such place. However it is cut, each part goes on up to the next
one; what is found has the parameter list up to the last closing parenthesis of its line, and a
bound name begins behind a blank, an equals sign or nothing. -/
theorem functions_found_at_first_fit (line : Text) :
    (((∃ place, search BoundFunction.start? line = some place) ↔
          ∃ before found after, BoundFunction.Fits found ∧ line = before ++ found.text ++ after) ∧
        (∀ before found, search BoundFunction.start? line = some (before, found) ↔
          IsFirstFit BoundFunction.text BoundFunction.Fits line before found) ∧
        (∀ found : BoundFunction, found.Fits → found.Maximal) ∧
        ∀ before found, search BoundFunction.start? line = some (before, found) →
          ∀ c ∈ before.getLast?, isBlank c = true ∨ c = '=') ∧
      ((∃ place, search NamedFunction.start? line = some place) ↔
          ∃ before found after, NamedFunction.Fits found ∧ line = before ++ found.text ++ after) ∧
        (∀ before found, search NamedFunction.start? line = some (before, found) ↔
          IsFirstFit NamedFunction.text NamedFunction.Fits line before found) ∧
        ∀ found : NamedFunction, found.Fits → found.Maximal := by
  have hbound := BoundFunction.readsLongest
  have hnamed := NamedFunction.readsLongest
  refine ⟨⟨hbound.exists_search_iff, ?_, ?_, ?_⟩, hnamed.exists_search_iff, ?_, ?_⟩
  · intro before found
    exact hbound.search_eq_some_iff
  · intro found h
    exact h.maximal
  · intro before found h
    exact BoundFunction.preceded_of_search h
  · intro before found
    exact hnamed.search_eq_some_iff
  · intro found h
    exact h.maximal

end SlashDoc
