import SlashDoc.Proofs.TemplateSlots
import SlashDoc.Proofs.TextPieces

/-!
# The laws of the template engine

How the parts of a template are cut into tokens, one lemma for each kind of part: a text up to the
next mark, a comment, and inside of a value blanks, names, the bar before a filter and the end mark.
`Token.Cuts` says what is cut and what is left, and `Reads` what the tokens stand for, so that parts
can be put one behind the other. That makes the engine a lawful one.
-/
namespace SlashDoc

open Text

namespace Text

def Ranges.apart : Ranges → Ranges → Bool
  | [], _ => true
  | (first, last) :: ranges, others =>
    match others.dropWhile (·.2 < first) with
    | [] => true
    | other :: later => last < other.1 && apart ranges (other :: later)

theorem Ranges.contains_dropWhile {ranges : Ranges} {n first : Nat} (hfirst : first ≤ n)
    (h : ranges.contains n = true) : Ranges.contains (ranges.dropWhile (·.2 < first)) n = true := by
  induction ranges with
  | nil => cases h
  | cons range ranges ih =>
    by_cases hbelow : range.2 < first
    · rw [List.dropWhile_cons_of_pos (by simpa using hbelow)]
      apply ih
      rw [Ranges.contains] at h
      split at h
      · cases h
      · have habove : ¬n ≤ range.2 := by omega
        simpa [habove] using h
    · rwa [List.dropWhile_cons_of_neg (by simpa using hbelow)]

/-- A number is looked up from below, so both lists can be gone through at once. -/
theorem Ranges.not_contains_of_apart {ranges others : Ranges} {n : Nat}
    (hapart : ranges.apart others = true) (h : ranges.contains n = true) :
    others.contains n = false := by
  by_contra hother
  rw [Bool.not_eq_false] at hother
  induction ranges generalizing others with
  | nil => cases h
  | cons range ranges ih =>
    obtain ⟨first, last⟩ := range
    rw [Ranges.contains] at h
    rw [Ranges.apart] at hapart
    split at h
    · cases h
    · rename_i hfirst
      have hleft := contains_dropWhile (Nat.le_of_not_lt hfirst) hother
      split at hapart
      · rename_i hnone
        rw [hnone] at hleft
        cases hleft
      · rename_i other later hlater
        rw [hlater] at hleft
        simp only [Bool.and_eq_true, decide_eq_true_eq] at hapart
        have habove : other.1 ≤ n := by
          by_contra hbelow
          rw [Ranges.contains, if_pos (Nat.lt_of_not_le hbelow)] at hleft
          cases hleft
        have hlast : ¬n ≤ last := by omega
        exact ih hapart.2 (by simpa [hlast] using h) hleft

def Ranges.members (ranges : Ranges) : List Nat :=
  ranges.flatMap fun (first, last) => List.range' first (last + 1 - first)

theorem Ranges.mem_members {ranges : Ranges} {n : Nat} (h : ranges.contains n = true) :
    n ∈ ranges.members := by
  induction ranges with
  | nil => cases h
  | cons range ranges ih =>
    obtain ⟨first, last⟩ := range
    rw [Ranges.contains] at h
    rw [Ranges.members, List.flatMap_cons, List.mem_append]
    split at h
    · cases h
    · rename_i hfirst
      rcases Bool.or_eq_true _ _ ▸ h with hlast | hlater
      · left
        rw [List.mem_range'_1]
        have hlast : n ≤ last := by simpa using hlast
        omega
      · exact .inr (ih hlater)

theorem isNameChar_of_isBlank {c : Char} (h : isBlank c = true) : isNameChar c = false := by
  have hword : blankRanges.apart wordRanges = true := by decide +kernel
  have hmark : blankRanges.apart markRanges = true := by decide +kernel
  simp [isNameChar, isWord, Ranges.not_contains_of_apart hword h,
    Ranges.not_contains_of_apart hmark h]

theorem isNameChar_of_begins {c : Char} (h : begins c = true) : isNameChar c = true := by
  have hearly : (Ranges.members earlyRanges).all markRanges.contains = true := by decide +kernel
  rcases Bool.or_eq_true _ _ ▸ h with hc | hc
  · have hfound := List.all_eq_true.mp hearly c.toNat (Ranges.mem_members hc)
    simp [isNameChar, hfound]
  · simp only [Bool.and_eq_true, Bool.not_eq_true'] at hc
    simp [isNameChar, hc.1.1.1]

end Text

namespace Template

namespace Token

theorem next_of_identifier {c : Char} {name rest : Text} (hname : isIdentifier (c :: name) = true)
    (hrest : ∀ d ∈ rest.head?, isNameChar d = false) :
    next c (name ++ rest) = (.name (c :: name), rest) := by
  have hparts : begins c = true ∧ name.all goesOn = true := by simpa [isIdentifier] using hname
  have hrun : MaximalRun isNameChar name rest := by
    refine ⟨?_, hrest⟩
    intro d hd
    have hgoes := List.all_eq_true.mp hparts.2 d hd
    simp only [goesOn, Bool.and_eq_true] at hgoes
    exact hgoes.1
  simp only [next, isNameChar_of_begins hparts.1, if_true, hrun.takeWhile_eq rfl,
    hrun.dropWhile_eq rfl, ofName, hname]

/-- Cutting `source` gives `tokens` and goes on with `rest`, as long as the fuel is enough. -/
def Cuts (mode : Mode) (source : Text) (tokens : List Token) (next : Mode) (rest : Text) : Prop :=
  ∀ fuel, source.length ≤ fuel → ∃ left, rest.length ≤ left ∧
    cut fuel mode source = tokens ++ cut left next rest

theorem Cuts.trans {mode next last : Mode} {source rest back : Text} {tokens more : List Token}
    (h : Cuts mode source tokens next rest) (hnext : Cuts next rest more last back) :
    Cuts mode source (tokens ++ more) last back := by
  intro fuel hfuel
  obtain ⟨left, hleft, hcut⟩ := h fuel hfuel
  obtain ⟨final, hfinal, hmore⟩ := hnext left hleft
  exact ⟨final, hfinal, by rw [hcut, hmore, List.append_assoc]⟩

theorem exists_of_opening? {text rest : Text} {mode : Mode}
    (h : opening? text = some (mode, rest)) : ∃ c ∈ markEnds, text = '\x7b' :: c :: rest := by
  unfold opening? at h
  split at h
  · obtain ⟨-, rfl⟩ := Prod.mk.inj (Option.some.inj h)
    exact ⟨_, by simp [markEnds], rfl⟩
  · obtain ⟨-, rfl⟩ := Prod.mk.inj (Option.some.inj h)
    exact ⟨_, by simp [markEnds], rfl⟩
  · obtain ⟨-, rfl⟩ := Prod.mk.inj (Option.some.inj h)
    exact ⟨_, by simp [markEnds], rfl⟩
  · cases h

/-! Every part that is cut off takes at least one character. -/

theorem length_splitSign_le (text : Text) : (splitSign text).2.length ≤ text.length := by
  unfold splitSign
  split
  · simp
  · simp
  · exact le_rfl

theorem length_of_search {source before marked : Text} {mode : Mode}
    (h : search opening? source = some (before, mode, marked)) :
    (splitSign marked).2.length < source.length := by
  obtain ⟨rest, rfl, hopening, -⟩ := search_eq_some_iff.mp h
  obtain ⟨c, -, rfl⟩ := exists_of_opening? hopening
  have hsign := length_splitSign_le marked
  simp only [List.length_append, List.length_cons]
  omega

theorem length_dropWhile_isBlank_le (text : Text) :
    (text.dropWhile isBlank).length ≤ text.length :=
  (List.dropWhile_suffix isBlank).length_le

theorem length_of_afterComment? {source rest : Text} (h : afterComment? source = some rest) :
    rest.length < source.length := by
  fun_induction afterComment? source with
  | case1 => cases h
  | case2 rest' =>
    cases h
    have hblanks := length_dropWhile_isBlank_le rest'
    simp only [List.length_cons]
    omega
  | case3 rest' =>
    cases h
    simp only [List.length_cons]
    omega
  | case4 c rest' _ _ ih =>
    have hlater := ih h
    simp only [List.length_cons]
    omega

theorem length_of_afterValue? {source rest : Text} (h : afterValue? source = some rest) :
    rest.length < source.length := by
  unfold afterValue? at h
  split at h
  · cases h
    exact (length_dropWhile_isBlank_le _).trans_lt (by simp only [List.length_cons]; omega)
  · cases h
    simp only [List.length_cons]
    omega
  · cases h

theorem length_of_afterTag? {source rest : Text} (h : afterTag? source = some rest) :
    rest.length < source.length := by
  unfold afterTag? at h
  split at h
  · cases h
    exact (length_dropWhile_isBlank_le _).trans_lt (by simp only [List.length_cons]; omega)
  · cases h
    simp only [List.length_cons]
    omega
  · cases h
    simp only [List.length_cons]
    omega
  · cases h

theorem length_of_end? {mode : Mode} {source rest : Text} {token : Token}
    (h : end? mode source = some (token, rest)) : rest.length < source.length := by
  cases mode with
  | text | comment => cases h
  | value =>
    obtain ⟨after, hafter, heq⟩ := Option.map_eq_some_iff.mp h
    obtain ⟨-, rfl⟩ := Prod.mk.inj heq
    exact length_of_afterValue? hafter
  | tag =>
    obtain ⟨after, hafter, heq⟩ := Option.map_eq_some_iff.mp h
    obtain ⟨-, rfl⟩ := Prod.mk.inj heq
    exact length_of_afterTag? hafter

theorem length_next_le (c : Char) (rest : Text) : (next c rest).2.length ≤ rest.length := by
  unfold next
  split
  · exact (List.dropWhile_suffix isNameChar).length_le
  · exact le_rfl

/-- More fuel than there are characters changes nothing. -/
theorem cut_eq_cut {fuel more : ℕ} {mode : Mode} {source : Text} (h : source.length ≤ fuel)
    (hmore : source.length ≤ more) : cut fuel mode source = cut more mode source := by
  induction fuel generalizing more mode source with
  | zero =>
    obtain rfl := List.eq_nil_of_length_eq_zero (Nat.le_zero.mp h)
    rw [cut_nil, cut_nil]
  | succ fuel ih =>
    rcases source with _ | ⟨c, source⟩
    · rw [cut_nil, cut_nil]
    · obtain ⟨more, rfl⟩ : ∃ left, more = left + 1 := by
        rw [List.length_cons] at hmore
        exact ⟨more - 1, by omega⟩
      have hshort : ∀ mode rest, rest.length < (c :: source).length →
          cut fuel mode rest = cut more mode rest := by
        intro mode rest hrest
        exact ih (by omega) (by omega)
      cases mode with
      | text =>
        simp only [cut]
        cases hsearch : search opening? (c :: source) with
        | none => rfl
        | some found => simp only [hshort _ _ (length_of_search hsearch)]
      | comment =>
        simp only [cut]
        cases hafter : afterComment? (c :: source) with
        | none => rfl
        | some rest => exact hshort _ _ (length_of_afterComment? hafter)
      | value | tag =>
        simp only [cut]
        cases hend : end? _ (c :: source) with
        | some found => simp only [hshort _ _ (length_of_end? hend)]
        | none =>
          have hnext := length_next_le c source
          dsimp only
          rw [hshort _ source (by simp), hshort _ (next c source).2 (by simp; omega)]

theorem Cuts.ofTemplate {source rest : Text} {tokens : List Token}
    (h : Cuts .text source tokens .text rest) :
    ofTemplate source = tokens ++ ofTemplate rest := by
  obtain ⟨left, hleft, hcut⟩ := h source.length le_rfl
  rw [Token.ofTemplate, hcut, cut_eq_cut hleft le_rfl]
  rfl

theorem ofTemplate_of_search {source : Text} (h : search opening? source = none) :
    ofTemplate source = ofContent source := by
  rcases source with _ | ⟨c, source⟩
  · rfl
  · simp [ofTemplate, cut, ofContent, h]

theorem cuts_of_step {mode next : Mode} {source rest : Text} {tokens : List Token}
    (hlength : rest.length < source.length)
    (h : ∀ left, cut (left + 1) mode source = tokens ++ cut left next rest) :
    Cuts mode source tokens next rest := by
  intro fuel hfuel
  obtain ⟨left, rfl⟩ : ∃ left, fuel = left + 1 := ⟨fuel - 1, by omega⟩
  exact ⟨left, by omega, h left⟩

theorem cuts_comment {source rest : Text} (h : afterComment? source = some rest) :
    Cuts .comment source [] .text rest := by
  refine cuts_of_step (length_of_afterComment? h) fun left => ?_
  rcases source with _ | ⟨c, source⟩
  · cases h
  · simp [cut, h]

/-- Inside of a value, a character that neither ends it nor is blank begins a token. -/
theorem cuts_next {c : Char} {source : Text} (hend : afterValue? (c :: source) = none)
    (hblank : isBlank c = false) :
    Cuts .value (c :: source) [(next c source).1] .value (next c source).2 := by
  refine cuts_of_step (Nat.lt_succ_of_le (length_next_le c source)) fun left => ?_
  simp [cut, end?, hend, hblank]

theorem afterValue?_eq_none {c : Char} (hminus : c ≠ '-') (hbrace : c ≠ '\x7d') (rest : Text) :
    afterValue? (c :: rest) = none := by
  unfold afterValue?
  split <;> simp_all

theorem cuts_blanks {blanks : Text} (h : ∀ c ∈ blanks, isBlank c = true) (rest : Text) :
    Cuts .value (blanks ++ rest) [] .value rest := by
  induction blanks with
  | nil =>
    intro fuel hfuel
    exact ⟨fuel, hfuel, rfl⟩
  | cons c blanks ih =>
    have hblank := h c List.mem_cons_self
    have hend : afterValue? (c :: (blanks ++ rest)) = none := by
      apply afterValue?_eq_none
      · rintro rfl
        exact absurd hblank (by decide)
      · rintro rfl
        exact absurd hblank (by decide)
    have hfirst : Cuts .value (c :: (blanks ++ rest)) [] .value (blanks ++ rest) := by
      refine cuts_of_step (Nat.lt_succ_self _) fun left => ?_
      simp [cut, end?, hend, hblank]
    exact hfirst.trans (ih fun d hd => h d (List.mem_cons_of_mem c hd))

theorem cuts_name {name rest : Text} (hname : isIdentifier name = true)
    (hrest : ∀ c ∈ rest.head?, isNameChar c = false) :
    Cuts .value (name ++ rest) [.name name] .value rest := by
  rcases name with _ | ⟨c, name⟩
  · cases hname
  · have hchar : isNameChar c = true := by
      simp only [isIdentifier, Bool.and_eq_true] at hname
      exact isNameChar_of_begins hname.1
    have hend : afterValue? (c :: (name ++ rest)) = none := by
      apply afterValue?_eq_none
      · rintro rfl
        exact absurd hchar (by decide)
      · rintro rfl
        exact absurd hchar (by decide)
    have hblank : isBlank c = false := by
      by_contra hblank
      rw [isNameChar_of_isBlank (by simpa using hblank)] at hchar
      cases hchar
    have hcuts := cuts_next hend hblank
    rwa [next_of_identifier hname hrest] at hcuts

theorem not_isNameChar_of_blanks {blanks rest : Text} (h : ∀ c ∈ blanks, isBlank c = true)
    (hrest : ∀ c ∈ rest.head?, isNameChar c = false) :
    ∀ c ∈ (blanks ++ rest).head?, isNameChar c = false := by
  rcases blanks with _ | ⟨d, blanks⟩
  · exact hrest
  · intro c hc
    obtain rfl := Option.some.inj hc
    exact isNameChar_of_isBlank (h d List.mem_cons_self)

theorem cuts_bar (rest : Text) : Cuts .value ('|' :: rest) [.bar] .value rest := by
  have hnext : next '|' rest = (.bar, rest) := by
    have hchar : isNameChar '|' = false := by decide
    simp [next, hchar]
  have hcuts : Cuts .value ('|' :: rest) [(next '|' rest).1] .value (next '|' rest).2 :=
    cuts_next rfl (by decide)
  rwa [hnext] at hcuts

theorem cuts_valueEnd (rest : Text) :
    Cuts .value ('\x7d' :: '\x7d' :: rest) [.valueEnd] .text rest := by
  refine cuts_of_step (by simp only [List.length_cons]; omega) fun left => ?_
  simp [cut, end?, afterValue?]

theorem cuts_safe {front back : Text} (h : ∀ c ∈ front ++ back, isBlank c = true) (rest : Text) :
    Cuts .value ('|' :: (front ++ ("safe".toList ++ (back ++ '\x7d' :: '\x7d' :: rest))))
      [.bar, .name "safe".toList, .valueEnd] .text rest := by
  have hfront : ∀ c ∈ front, isBlank c = true := fun c hc => h c (List.mem_append_left back hc)
  have hback : ∀ c ∈ back, isBlank c = true := fun c hc => h c (List.mem_append_right front hc)
  have hend : ∀ c ∈ ('\x7d' :: '\x7d' :: rest).head?, isNameChar c = false := by
    rintro c ⟨⟩
    decide
  have hname : isIdentifier "safe".toList = true := by decide +kernel
  exact (cuts_bar _).trans <| (cuts_blanks hfront _).trans <|
    (cuts_name hname (not_isNameChar_of_blanks hback hend)).trans <|
    (cuts_blanks hback _).trans (cuts_valueEnd rest)

theorem splitSign_of_head? {text : Text} (h : ∀ c ∈ text.head?, c ≠ '-' ∧ c ≠ '+') :
    splitSign text = (false, text) := by
  unfold splitSign
  split
  · exact absurd rfl (h '-' rfl).1
  · exact absurd rfl (h '+' rfl).2
  · rfl

theorem opening?_value (rest : Text) :
    opening? ('\x7b' :: '\x7b' :: rest) = some (.value, rest) := rfl

theorem opening?_comment (rest : Text) :
    opening? ('\x7b' :: '#' :: rest) = some (.comment, rest) := rfl

theorem search_eq_none {text : Text} (h : OpensNone text) : search opening? text = none := by
  rw [search_eq_none_iff]
  rintro rest ⟨front, rfl⟩
  rw [Option.eq_none_iff_forall_ne_some]
  rintro ⟨mode, back⟩ hopening
  obtain ⟨c, hc, rfl⟩ := exists_of_opening? hopening
  exact h c hc ⟨front, back, by simp⟩

theorem search_append {lead marked rest : Text} {mode : Mode} (h : OpensNone lead)
    (hlast : lead.getLast? ≠ some '\x7b') (hmarked : opening? marked = some (mode, rest)) :
    search opening? (lead ++ marked) = some (lead, mode, rest) := by
  rw [search_eq_some_iff]
  refine ⟨marked, rfl, hmarked, ?_⟩
  intro front back hcut hlength
  rw [Option.eq_none_iff_forall_ne_some]
  rintro ⟨other, later⟩ hopening
  obtain ⟨c, hc, rfl⟩ := exists_of_opening? hopening
  exact h c hc (mark_within_of_append hlast hlength hcut)

/-- A text goes on to the first mark, and all of it is kept unless a minus sign follows the mark. -/
theorem cuts_lead {lead marked inner rest : Text} {mode : Mode} (h : OpensNone lead)
    (hlast : lead.getLast? ≠ some '\x7b') (hmarked : opening? marked = some (mode, inner))
    (hsign : splitSign inner = (false, rest)) :
    Cuts .text (lead ++ marked) (ofContent lead ++ ofMode mode) mode rest := by
  have hsearch := search_append h hlast hmarked
  have hlength : rest.length < (lead ++ marked).length := by
    simpa only [hsign] using length_of_search hsearch
  refine cuts_of_step hlength fun left => ?_
  cases hsource : lead ++ marked with
  | nil => simp [hsource] at hlength
  | cons d source =>
    rw [hsource] at hsearch
    simp only [cut, hsearch, hsign]
    simp

theorem afterComment?_cons {c : Char} {rest : Text} (hend : ¬['#', '\x7d'] <+: c :: rest)
    (hminus : ¬['-', '#', '\x7d'] <+: c :: rest) :
    afterComment? (c :: rest) = afterComment? rest := by
  rw [afterComment?.eq_def]
  split
  · rename_i heq
    cases heq
  · rename_i heq
    rw [heq] at hminus
    simp at hminus
  · rename_i heq
    rw [heq] at hend
    simp at hend
  · rename_i heq
    rw [(List.cons.inj heq).2]

/-- A comment goes on to the first mark that ends one. -/
theorem afterComment?_append {content : Text} (hend : ¬['#', '\x7d'] <:+: content)
    (hlast : content.getLast? ≠ some '-') (rest : Text) :
    afterComment? (content ++ '#' :: '\x7d' :: rest) = some rest := by
  induction content with
  | nil => rfl
  | cons c content ih =>
    have hlater : ¬['#', '\x7d'] <:+: content := by
      intro hwithin
      exact hend (hwithin.trans (List.suffix_cons c content).isInfix)
    have hfront : ¬['#', '\x7d'] <+: c :: content := by
      intro hfront
      exact hend hfront.isInfix
    rw [List.cons_append, afterComment?_cons]
    · apply ih hlater
      rcases content with _ | ⟨d, content⟩
      · simp
      · simpa using hlast
    · rcases content with _ | ⟨d, content⟩
      · simp
      · simpa using hfront
    · rcases content with _ | ⟨d, _ | ⟨e, content⟩⟩
      · simpa [eq_comm] using hlast
      · simp
      · intro hminus
        apply hlater
        simp only [List.cons_append, List.cons_prefix_cons] at hminus
        obtain ⟨-, rfl, rfl, -⟩ := hminus
        exact ⟨[], content, rfl⟩

end Token

def ofText (content : Text) : List Piece :=
  if content = [] then [] else [.text content]

theorem otherFilter?_of_mem_ofText {content : Text} {piece : Piece}
    (h : piece ∈ ofText content) : otherFilter? piece = none := by
  unfold ofText at h
  split at h
  · cases h
  · obtain rfl := List.mem_singleton.mp h
    rfl

section Fill

variable (escapes : Bool) (body file : Text)

theorem fill_append (pieces later : List Piece) :
    fill (pieces ++ later) escapes body file =
      fill pieces escapes body file ++ fill later escapes body file :=
  List.flatMap_append

theorem fill_ofText (content : Text) : fill (ofText content) escapes body file = content := by
  unfold ofText
  split
  · simp_all [fill]
  · simp [fill, fillPiece]

end Fill

/-- Reading `tokens` gives `pieces`, whatever follows them. -/
def Reads (tokens : List Token) (pieces : List Piece) : Prop :=
  ∀ more, read .piece (tokens ++ more) = (read .piece more).map (pieces ++ ·)

theorem Reads.append {tokens more : List Token} {pieces later : List Piece}
    (h : Reads tokens pieces) (hmore : Reads more later) :
    Reads (tokens ++ more) (pieces ++ later) := by
  intro rest
  rw [List.append_assoc, h, hmore]
  cases read .piece rest <;> simp [Except.map]

theorem reads_ofContent (content : Text) : Reads (Token.ofContent content) (ofText content) := by
  unfold Token.ofContent ofText
  intro more
  split
  · cases hread : read .piece more <;> simp [Except.map, hread]
  · simp [read]

section Values

variable {name : Text}

theorem reads_value (h : name ∉ reservedNames) :
    Reads [.valueStart, .name name, .valueEnd] [.value name []] := by
  intro more
  simp [read, h]

theorem reads_safe (h : name ∉ reservedNames) :
    Reads [.valueStart, .name name, .bar, .name "safe".toList, .valueEnd]
      [.value name ["safe".toList]] := by
  intro more
  simp [read, h]

end Values

structure Covers (source : Text) (pieces : List Piece) (rest : Text) : Prop where
  reads : ∃ tokens, Token.Cuts .text source tokens .text rest ∧ Reads tokens pieces
  known : ∀ piece ∈ pieces, otherFilter? piece = none

theorem parse_eq_ok_iff {source : Text} {pieces : List Piece} :
    parse source = .ok pieces ↔ read .piece (Token.ofTemplate source) = .ok pieces ∧
      ∀ piece ∈ pieces, otherFilter? piece = none := by
  unfold parse
  cases read .piece (Token.ofTemplate source) with
  | error fault => simp [bind, Except.bind]
  | ok found =>
    simp only [bind, Except.bind, Except.ok.injEq]
    cases hfilter : found.findSome? otherFilter? with
    | none =>
      rw [List.findSome?_eq_none_iff] at hfilter
      constructor
      · intro h
        obtain rfl := Except.ok.inj h
        exact ⟨rfl, hfilter⟩
      · rintro ⟨rfl, -⟩
        rfl
    | some name =>
      constructor
      · intro h
        cases h
      · rintro ⟨rfl, hknown⟩
        rw [List.findSome?_eq_none_iff.mpr hknown] at hfilter
        cases hfilter

theorem Covers.parse {source rest : Text} {pieces later : List Piece}
    (h : Covers source pieces rest) (hrest : parse rest = .ok later) :
    parse source = .ok (pieces ++ later) := by
  obtain ⟨⟨tokens, hcuts, hreads⟩, hknown⟩ := h
  obtain ⟨hread, hlater⟩ := parse_eq_ok_iff.mp hrest
  rw [parse_eq_ok_iff, hcuts.ofTemplate, hreads, hread]
  refine ⟨rfl, ?_⟩
  intro piece hpiece
  rcases List.mem_append.mp hpiece with hpiece | hpiece
  · exact hknown piece hpiece
  · exact hlater piece hpiece

theorem parse_of_opensNone {content : Text} (h : OpensNone content) :
    parse content = .ok (ofText content) := by
  rw [parse_eq_ok_iff, Token.ofTemplate_of_search (Token.search_eq_none h)]
  refine ⟨?_, fun piece hpiece => otherFilter?_of_mem_ofText hpiece⟩
  simpa [read, Except.map] using reads_ofContent content []

end Template

open Template

namespace Placeholder

variable {unset : Text → Prop} {place : Placeholder}

def piece (place : Placeholder) : Piece :=
  .value place.name (if place.safe.isSome then ["safe".toList] else [])

theorem Valid.notMem_reservedNames (h : place.Valid (· ∉ reservedNames)) :
    place.name ∉ reservedNames := by
  rcases h.known with hname | hname | hname
  · rw [hname]
    decide +kernel
  · rw [hname]
    decide +kernel
  · exact hname

theorem Valid.cuts_ending (h : place.Valid (· ∉ reservedNames)) (rest : Text) :
    ∃ tokens, Token.Cuts .value (place.ending ++ rest) tokens .text rest ∧
      Reads (.valueStart :: .name place.name :: tokens) [place.piece] := by
  unfold ending piece
  cases hsafe : place.safe with
  | none => exact ⟨_, Token.cuts_valueEnd rest, reads_value h.notMem_reservedNames⟩
  | some blanks =>
    refine ⟨_, ?_, reads_safe h.notMem_reservedNames⟩
    simpa using Token.cuts_safe (h.safe blanks hsafe) rest

theorem head?_ending (rest : Text) :
    ∀ c ∈ (place.ending ++ rest).head?, isNameChar c = false := by
  intro c hc
  unfold ending at hc
  split at hc
  all_goals
    obtain rfl := Option.some.inj hc
    decide

/-- No sign follows the mark that opens the value: what comes first is a blank or the name. -/
theorem Valid.head?_before (h : place.Valid unset) (rest : Text) :
    ∀ c ∈ (place.before ++ (place.name ++ rest)).head?, c ≠ '-' ∧ c ≠ '+' := by
  have hname := h.name
  intro c hc
  have hkind : isBlank c = true ∨ isNameChar c = true := by
    cases hbefore : place.before with
    | cons d before =>
      rw [hbefore] at hc
      obtain rfl := Option.some.inj hc
      exact .inl (h.before d (by simp [hbefore]))
    | nil =>
      cases hletters : place.name with
      | nil =>
        rw [hletters] at hname
        cases hname
      | cons d name =>
        rw [hbefore, hletters] at hc
        obtain rfl := Option.some.inj hc
        rw [hletters, isIdentifier, Bool.and_eq_true] at hname
        exact .inr (isNameChar_of_begins hname.1)
  constructor
  · rintro rfl
    exact absurd hkind (by decide +kernel)
  · rintro rfl
    exact absurd hkind (by decide +kernel)

theorem Valid.covers (h : place.Valid (· ∉ reservedNames)) {lead : Text} (hlead : OpensNone lead)
    (hlast : lead.getLast? ≠ some '\x7b') (rest : Text) :
    Covers (lead ++ (place.source ++ rest)) (ofText lead ++ [place.piece]) rest := by
  obtain ⟨tokens, hending, hreads⟩ := h.cuts_ending rest
  have hname : Token.Cuts .value
      (place.before ++ (place.name ++ (place.after ++ (place.ending ++ rest))))
      (.name place.name :: tokens) .text rest :=
    (Token.cuts_blanks h.before _).trans <|
      (Token.cuts_name h.name (Token.not_isNameChar_of_blanks h.after (head?_ending rest))).trans <|
      (Token.cuts_blanks h.after _).trans hending
  have hopening := Token.cuts_lead hlead hlast (Token.opening?_value _)
    (Token.splitSign_of_head? (h.head?_before (place.after ++ (place.ending ++ rest))))
  refine ⟨⟨_, ?_, (reads_ofContent lead).append hreads⟩, ?_⟩
  · simpa [source, Token.ofMode] using hopening.trans hname
  · intro piece hpiece
    rcases List.mem_append.mp hpiece with hpiece | hpiece
    · exact otherFilter?_of_mem_ofText hpiece
    · obtain rfl := List.mem_singleton.mp hpiece
      rcases place with ⟨before, name, after, _ | blanks⟩
      · rfl
      · rfl

end Placeholder

namespace Slot

def pieces : Slot → List Piece
  | comment _ => []
  | value place => [place.piece]

theorem covers_comment {unset : Text → Prop} {content lead : Text}
    (h : (comment content).Valid unset) (hlead : OpensNone lead)
    (hlast : lead.getLast? ≠ some '\x7b') (rest : Text) :
    Covers (lead ++ ((comment content).source ++ rest)) (ofText lead) rest := by
  obtain ⟨hend, hminus, hlastMinus⟩ := h
  -- A plus sign behind the opening mark is not part of what is read as the comment.
  obtain ⟨kept, hsuffix, hsign⟩ : ∃ kept, kept <:+ content ∧
      Token.splitSign (content ++ '#' :: '\x7d' :: rest) =
        (false, kept ++ '#' :: '\x7d' :: rest) := by
    rcases content with _ | ⟨c, content⟩
    · exact ⟨[], List.suffix_rfl, rfl⟩
    · by_cases hplus : c = '+'
      · subst hplus
        exact ⟨content, List.suffix_cons _ _, rfl⟩
      · refine ⟨c :: content, List.suffix_rfl, Token.splitSign_of_head? ?_⟩
        rintro d ⟨⟩
        exact ⟨by simpa using hminus, hplus⟩
  have hkept : Token.afterComment? (kept ++ '#' :: '\x7d' :: rest) = some rest := by
    apply Token.afterComment?_append
    · intro hwithin
      exact hend (hwithin.trans hsuffix.isInfix)
    · obtain ⟨front, rfl⟩ := hsuffix
      intro hkeptLast
      exact hlastMinus (by simp [List.getLast?_append, hkeptLast])
  have hopening := Token.cuts_lead hlead hlast (Token.opening?_comment _) hsign
  refine ⟨⟨_, ?_, reads_ofContent lead⟩, fun piece hpiece => otherFilter?_of_mem_ofText hpiece⟩
  simpa [source, Token.ofMode] using hopening.trans (Token.cuts_comment hkept)

theorem Valid.covers {slot : Slot} {lead : Text} (h : slot.Valid (· ∉ reservedNames))
    (hlead : OpensNone lead) (hlast : lead.getLast? ≠ some '\x7b') (rest : Text) :
    Covers (lead ++ (slot.source ++ rest)) (ofText lead ++ slot.pieces) rest := by
  cases slot with
  | comment content =>
    rw [pieces, List.append_nil]
    exact covers_comment h hlead hlast rest
  | value place => exact Placeholder.Valid.covers h hlead hlast rest

theorem fill_pieces (slot : Slot) (escapes : Bool) (body file : Text) :
    fill slot.pieces escapes body file = slot.shown escapes body file := by
  cases slot with
  | comment content => rfl
  | value place =>
    rcases place with ⟨before, name, after, _ | blanks⟩
    · simp [pieces, Placeholder.piece, shown, fill, fillPiece]
    · simp [pieces, Placeholder.piece, shown, fill, fillPiece]

end Slot

theorem Template.lawful_engine : engine.Lawful (· ∉ reservedNames) := by
  refine ⟨?_, ?_⟩
  · intro content hcontent _ tree path escapes body file
    simp only [engine, parse_of_opensNone hcontent, fill_ofText]
  · intro lead slot rest hlead hlast hslot _ tree path escapes body file page hpage
    simp only [engine] at hpage ⊢
    cases hrest : parse rest with
    | error fault =>
      rw [hrest] at hpage
      cases hpage
    | ok later =>
      rw [hrest] at hpage
      obtain rfl := Except.ok.inj hpage
      rw [(hslot.covers hlead hlast rest).parse hrest]
      simp only [fill_append, fill_ofText, Slot.fill_pieces, List.append_assoc]

end SlashDoc
