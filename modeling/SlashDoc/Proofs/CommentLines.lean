import SlashDoc.Line
import SlashDoc.Proofs.TextPieces

/-!
# How comment lines are read

A comment line is cut behind its blanks, its slashes and one more blank. Other cuts leave some of
these to the body, and the first blank of the body may be a line feed. Still no other cut finds a
comment where this one does not, because it leaves the least that has to be a single line.
-/
namespace SlashDoc

open Text

namespace Comment

def afterBlank (rest : Text) : Text :=
  if rest.head?.any isBlank then rest.tail else rest

theorem splitGap_snd (rest : Text) : (splitGap rest).2 = afterBlank rest := by
  cases rest with
  | nil => rfl
  | cons c rest => by_cases hc : isBlank c = true <;> simp [splitGap, afterBlank, hc]

variable {line indent slashes rest : Text}

theorem body?_of_marked (hindent : MaximalRun isBlank indent (slashes ++ rest))
    (hslashes : MaximalRun (· == '/') slashes rest) (hline : line = indent ++ slashes ++ rest) :
    body? line = if 2 ≤ slashes.length then singleLine? (afterBlank rest) else none := by
  rw [List.append_assoc] at hline
  simp only [body?, ofLine?, hindent.dropWhile_eq hline, hindent.takeWhile_eq hline,
    hslashes.dropWhile_eq rfl, hslashes.takeWhile_eq rfl, splitGap_snd]
  by_cases hlength : slashes.length < 2
  · rw [if_pos hlength, if_neg (Nat.not_le_of_lt hlength)]
    rfl
  · rw [if_neg hlength, if_pos (Nat.le_of_not_lt hlength), Option.map_map]
    exact Option.map_id'

theorem body?_eq_some_iff_of_marked (hindent : MaximalRun isBlank indent (slashes ++ rest))
    (hslashes : MaximalRun (· == '/') slashes rest) (hline : line = indent ++ slashes ++ rest)
    {body : Text} :
    body? line = some body ↔ 2 ≤ slashes.length ∧ EndsLine body (afterBlank rest) := by
  rw [body?_of_marked hindent hslashes hline, ← singleLine?_eq_some_iff]
  by_cases hlength : 2 ≤ slashes.length <;> simp [hlength]

theorem exists_gap (rest : Text) :
    ∃ gap, rest = gap ++ afterBlank rest ∧ gap.length ≤ 1 ∧ ∀ c ∈ gap, isBlank c = true := by
  rcases rest with _ | ⟨c, rest⟩
  · exact ⟨[], rfl, by simp, by simp⟩
  · by_cases hc : isBlank c = true
    · exact ⟨[c], by simp [afterBlank, hc], by simp, List.forall_mem_singleton.mpr hc⟩
    · exact ⟨[], by simp [afterBlank, hc], by simp, by simp⟩

theorem afterBlank_suffix (rest : Text) : afterBlank rest <:+ rest := by
  obtain ⟨gap, hgap, -⟩ := exists_gap rest
  exact ⟨gap, hgap.symm⟩

theorem exists_marked (line : Text) :
    ∃ indent slashes rest, line = indent ++ slashes ++ rest ∧
      MaximalRun isBlank indent (slashes ++ rest) ∧ MaximalRun (· == '/') slashes rest := by
  refine ⟨line.takeWhile isBlank, (line.dropWhile isBlank).takeWhile (· == '/'),
    (line.dropWhile isBlank).dropWhile (· == '/'), ?_, ?_, maximalRun_takeWhile _ _⟩
  · rw [List.append_assoc, List.takeWhile_append_dropWhile, List.takeWhile_append_dropWhile]
  · rw [List.takeWhile_append_dropWhile]
    exact maximalRun_takeWhile isBlank line

theorem feed_notMem_of_body? {body : Text} (h : body? line = some body) : '\n' ∉ body := by
  obtain ⟨indent, slashes, rest, hline, hindent, hslashes⟩ := exists_marked line
  exact ((body?_eq_some_iff_of_marked hindent hslashes hline).mp h).2.1

structure Fits (found : Comment) (line tail : Text) : Prop where
  line_eq : line = found.indent ++ found.slashes ++ found.gap ++ tail
  indent : ∀ c ∈ found.indent, isBlank c = true
  slashes_length : 2 ≤ found.slashes.length
  slashes : ∀ c ∈ found.slashes, c = '/'
  gap_length : found.gap.length ≤ 1
  gap : ∀ c ∈ found.gap, isBlank c = true
  body : EndsLine found.body tail

theorem maximalRun_indent (hindent : ∀ c ∈ indent, isBlank c = true)
    (hslashes : ∀ c ∈ slashes, c = '/') (hlength : 2 ≤ slashes.length) (rest : Text) :
    MaximalRun isBlank indent (slashes ++ rest) := by
  rcases slashes with _ | ⟨c, slashes⟩
  · cases hlength
  · obtain rfl := hslashes c List.mem_cons_self
    exact maximalRun_of_head? hindent rfl (by decide)

/-- Taking all the slashes and the blank leaves no more for the body than any other cut does. -/
theorem Fits.exists_marked {found : Comment} {tail : Text} (h : found.Fits line tail) :
    ∃ more rest, line = found.indent ++ (found.slashes ++ more) ++ rest ∧
      MaximalRun (· == '/') (found.slashes ++ more) rest ∧ afterBlank rest <:+ tail := by
  rcases hgap : found.gap with _ | ⟨c, gap⟩
  · have hmore := maximalRun_takeWhile (· == '/') tail
    refine ⟨tail.takeWhile (· == '/'), tail.dropWhile (· == '/'), ?_, ⟨?_, hmore.stops⟩, ?_⟩
    · simp [h.line_eq, hgap]
    · intro c hc
      rcases List.mem_append.mp hc with hc | hc
      · simpa using h.slashes c hc
      · exact hmore.all c hc
    · exact (afterBlank_suffix _).trans (List.dropWhile_suffix _)
  · obtain rfl : gap = [] := by
      have hlength := h.gap_length
      rw [hgap, List.length_cons] at hlength
      exact List.length_eq_zero_iff.mp (by omega)
    have hblank := h.gap c (by simp [hgap])
    have hslash : (c == '/') = false := by
      rw [beq_eq_false_iff_ne]
      rintro rfl
      exact absurd hblank (by decide)
    refine ⟨[], c :: tail, by simp [h.line_eq, hgap], ?_, by simp [afterBlank, hblank]⟩
    rw [List.append_nil]
    exact maximalRun_of_head? (fun d hd => by simpa using h.slashes d hd) rfl hslash

theorem exists_body?_iff :
    (∃ body, body? line = some body) ↔ ∃ (found : Comment) (tail : Text), found.Fits line tail := by
  constructor
  · rintro ⟨body, hbody⟩
    obtain ⟨indent, slashes, rest, hline, hindent, hslashes⟩ := Comment.exists_marked line
    obtain ⟨gap, hgap, hone, hblank⟩ := exists_gap rest
    obtain ⟨hlength, hends⟩ := (body?_eq_some_iff_of_marked hindent hslashes hline).mp hbody
    refine ⟨⟨indent, slashes, gap, body⟩, afterBlank rest, ?_⟩
    refine ⟨?_, hindent.all, hlength, ?_, hone, hblank, hends⟩
    · rw [hline, List.append_assoc _ gap, ← hgap]
    · intro c hc
      simpa using hslashes.all c hc
  · rintro ⟨found, tail, h⟩
    obtain ⟨more, rest, hline, hslashes, hsuffix⟩ := h.exists_marked
    obtain ⟨body, hbody⟩ := h.body.suffix hsuffix
    have hlength : 2 ≤ (found.slashes ++ more).length := by
      have hlength := h.slashes_length
      rw [List.length_append]
      omega
    have hall : ∀ c ∈ found.slashes ++ more, c = '/' := by
      intro c hc
      simpa using hslashes.all c hc
    have hindent := maximalRun_indent h.indent hall hlength rest
    exact ⟨body, (body?_eq_some_iff_of_marked hindent hslashes hline).mpr ⟨hlength, hbody⟩⟩

theorem body?_append_of_blank {blanks : Text} (h : ∀ c ∈ blanks, isBlank c = true) (line : Text) :
    body? (blanks ++ line) = body? line := by
  obtain ⟨indent, slashes, rest, hline, hindent, hslashes⟩ := Comment.exists_marked line
  have hlonger : MaximalRun isBlank (blanks ++ indent) (slashes ++ rest) := by
    refine ⟨?_, hindent.stops⟩
    intro c hc
    rcases List.mem_append.mp hc with hc | hc
    · exact h c hc
    · exact hindent.all c hc
  rw [body?_of_marked hindent hslashes hline,
    body?_of_marked hlonger hslashes (by simp [hline])]

theorem body?_of_more_slashes (hindent : MaximalRun isBlank indent (slashes ++ rest))
    (hslashes : MaximalRun (· == '/') slashes rest) {more : Text} (hmore : ∀ c ∈ more, c = '/')
    (hlength : 2 ≤ slashes.length) :
    body? (indent ++ slashes ++ more ++ rest) = body? (indent ++ slashes ++ rest) := by
  have hlonger : MaximalRun (· == '/') (slashes ++ more) rest := by
    refine ⟨?_, hslashes.stops⟩
    intro c hc
    rcases List.mem_append.mp hc with hc | hc
    · exact hslashes.all c hc
    · simpa using hmore c hc
  have hall : ∀ c ∈ slashes ++ more, c = '/' := by
    intro c hc
    simpa using hlonger.all c hc
  have hlong : 2 ≤ (slashes ++ more).length := by
    rw [List.length_append]
    omega
  have hblank := maximalRun_indent hindent.all hall hlong rest
  rw [body?_of_marked hindent hslashes rfl,
    body?_of_marked hblank hlonger (by rw [List.append_assoc indent]), if_pos hlength, if_pos hlong]

end Comment

/-- A line is a comment exactly if two slashes stand behind its blanks and no line feed stands in
the rest, one blank and the very end left out. Then the rest is its body, whatever blanks and
further slashes stand in front of it, and no other way to cut the line finds a comment where this
one does not. -/
theorem comment_lines_read (line : Text) :
    (∀ indent slashes rest : Text, line = indent ++ slashes ++ rest →
      MaximalRun isBlank indent (slashes ++ rest) → MaximalRun (· == '/') slashes rest →
      let text := if rest.head?.any isBlank then rest.tail else rest
      ((∃ body, Comment.body? line = some body) ↔ 2 ≤ slashes.length ∧ '\n' ∉ text.dropLast) ∧
        (∀ body, Comment.body? line = some body →
          body = if text.getLast? = some '\n' then text.dropLast else text) ∧
        ∀ more : Text, (∀ c ∈ more, c = '/') → (∃ body, Comment.body? line = some body) →
          Comment.body? (indent ++ slashes ++ more ++ rest) = Comment.body? line) ∧
      ((∃ body, Comment.body? line = some body) ↔
        ∃ (found : Comment) (tail : Text), found.Fits line tail) ∧
      (∀ body, Comment.body? line = some body → '\n' ∉ body) ∧
      ∀ blanks : Text, (∀ c ∈ blanks, isBlank c = true) →
        Comment.body? (blanks ++ line) = Comment.body? line := by
  refine ⟨?_, Comment.exists_body?_iff, ?_, ?_⟩
  · intro indent slashes rest hline hindent hslashes text
    have hsome (body : Text) : Comment.body? line = some body ↔
        2 ≤ slashes.length ∧ EndsLine body (Comment.afterBlank rest) :=
      Comment.body?_eq_some_iff_of_marked hindent hslashes hline
    refine ⟨⟨?_, ?_⟩, ?_, ?_⟩
    · rintro ⟨body, hbody⟩
      obtain ⟨hlength, hends⟩ := (hsome body).mp hbody
      exact ⟨hlength, (endsLine_iff.mp hends).1⟩
    · rintro ⟨hlength, hfree⟩
      exact ⟨_, (hsome _).mpr ⟨hlength, endsLine_iff.mpr ⟨hfree, rfl⟩⟩⟩
    · intro body hbody
      exact (endsLine_iff.mp ((hsome body).mp hbody).2).2
    · rintro more hmore ⟨body, hbody⟩
      rw [hline]
      exact Comment.body?_of_more_slashes hindent hslashes hmore ((hsome body).mp hbody).1
  · intro body hbody
    exact Comment.feed_notMem_of_body? hbody
  · intro blanks hblanks
    exact Comment.body?_append_of_blank hblanks line

/-- A line feed counts as the blank behind the slashes, and another one may end the line. -/
theorem comment_lines_read_around_feeds :
    Comment.body? "\n//\n a\n".toList = some " a".toList ∧
      Comment.body? "\n////\n a\n".toList = some " a".toList ∧
      Comment.body? "\t\n//\n a\n".toList = some " a".toList := by
  obtain ⟨hcut, -, -, hblanks⟩ := comment_lines_read "\n//\n a\n".toList
  obtain ⟨hiff, hbody, hmore⟩ := hcut ['\n'] ['/', '/'] "\n a\n".toList rfl
    (maximalRun_of_head? (List.all_eq_true.mp (by decide)) rfl (by decide))
    (maximalRun_of_head? (List.all_eq_true.mp (by decide)) rfl (by decide))
  obtain ⟨body, hsome⟩ := hiff.mpr ⟨by decide, by decide⟩
  obtain rfl : body = " a".toList := hbody body hsome
  refine ⟨hsome, ?_, ?_⟩
  · exact (hmore ['/', '/'] (by simp) ⟨_, hsome⟩).trans hsome
  · exact (hblanks ['\t'] (List.all_eq_true.mp (by decide))).trans hsome

end SlashDoc
