import Mathlib.Data.List.Basic
import SlashDoc.Line

/-!
# Lines put together from pieces

Splitting a text does not depend on where the text is cut, apart from a cut inside a line break.
The buffer stays away from that cut by holding back a final carriage return. What it holds and what
it has handed out are determined by the text that has arrived, not by its division into pieces.
-/
namespace SlashDoc.Line

def settled (text : Text) : Text :=
  if text.getLast? = some '\r' then text.dropLast else text

def openReturn (text : Text) : Text :=
  if text.getLast? = some '\r' then ['\r'] else []

/-- The number of lines that a text completes. A line is complete at a line feed, or at a carriage
return that another character already follows; in front of a line feed it is not counted twice. -/
def completed : Text → Nat
  | [] => 0
  | [c] => if c = '\n' then 1 else 0
  | c :: d :: rest => (if c = '\n' ∨ (c = '\r' ∧ d ≠ '\n') then 1 else 0) + completed (d :: rest)

def BreakFree (text : Text) : Prop := ∀ c ∈ text, isBreak c = false

theorem split_ne_nil (text : Text) : split text ≠ [] := by
  fun_induction split text with
  | case1 => simp
  | case2 rest ih => simp
  | case3 c rest hpair hb ih => simp
  | case4 c rest hpair hb ih =>
    cases h : split rest with
    | nil => exact (ih h).elim
    | cons line lines => simp [Text.extendHead]

theorem exists_split_eq_append (text : Text) : ∃ lines last, split text = lines ++ [last] :=
  ⟨_, _, (List.dropLast_append_getLast (split_ne_nil text)).symm⟩

theorem split_cons {c : Char} {rest : Text} (h : c = '\r' → rest.head? ≠ some '\n') :
    split (c :: rest) =
      if isBreak c then [] :: split rest else Text.extendHead c (split rest) := by
  rw [split]
  rintro tail rfl rfl
  exact h rfl rfl

theorem split_cons_of_not_isBreak {c : Char} {rest : Text} (h : isBreak c = false) :
    split (c :: rest) = Text.extendHead c (split rest) := by
  rw [split_cons, h]
  · rfl
  · rintro rfl
    simp [isBreak] at h

theorem length_extendHead {c : Char} {lines : List Text} (h : lines ≠ []) :
    (Text.extendHead c lines).length = lines.length := by
  cases lines with
  | nil => exact (h rfl).elim
  | cons line lines => rfl

/-- Cutting a text anywhere but between a carriage return and a line feed leaves its lines alone:
only the last line of the first part goes on in the second. -/
theorem split_append {a b : Text} {lines : List Text} {last : Text}
    (ha : split a = lines ++ [last]) (h : a.getLast? = some '\r' → b.head? ≠ some '\n') :
    split (a ++ b) = lines ++ split (last ++ b) := by
  -- the lines vary in the induction, because the first break of `a` ends the first of them
  fun_induction split a generalizing lines last with
  | case1 =>
    obtain ⟨rfl, rfl⟩ : lines = [] ∧ last = [] := by
      simpa [List.singleton_eq_append_iff] using ha
    rfl
  | case2 rest ih =>
    rcases lines with _ | ⟨line, lines⟩
    · simp [split_ne_nil] at ha
    · obtain ⟨rfl, hrest⟩ := List.cons.inj ha
      have hr : rest.getLast? = some '\r' → b.head? ≠ some '\n' := by
        intro hr
        exact h (by simp [List.getLast?_cons, hr])
      simpa [split] using ih hrest hr
  | case3 c rest hpair hb ih =>
    rcases lines with _ | ⟨line, lines⟩
    · simp [split_ne_nil] at ha
    · obtain ⟨rfl, hrest⟩ := List.cons.inj ha
      have hr : rest.getLast? = some '\r' → b.head? ≠ some '\n' := by
        intro hr
        exact h (by simp [List.getLast?_cons, hr])
      have hc : c = '\r' → (rest ++ b).head? ≠ some '\n' := by
        rintro rfl
        cases rest with
        | nil => exact h rfl
        | cons d rest => simpa using fun hd => hpair rest rfl (by rw [hd])
      simpa [split_cons hc, hb] using ih hrest hr
  | case4 c rest hpair hb ih =>
    have hb : isBreak c = false := by simpa using hb
    have hr : rest.getLast? = some '\r' → b.head? ≠ some '\n' := by
      intro hr
      exact h (by simp [List.getLast?_cons, hr])
    obtain ⟨front, final, hrest⟩ := exists_split_eq_append rest
    have hmore := ih hrest hr
    rw [hrest] at ha
    rw [List.cons_append, split_cons_of_not_isBreak hb, hmore]
    rcases front with _ | ⟨line, front⟩
    · obtain ⟨rfl, rfl⟩ : lines = [] ∧ last = c :: final := by
        simpa [Text.extendHead, List.singleton_eq_append_iff] using ha
      simp [split_cons_of_not_isBreak hb]
    · have hends : ((c :: line) :: front) ++ [final] = lines ++ [last] := ha
      obtain ⟨rfl, hlast⟩ := List.append_inj' hends rfl
      cases hlast
      rfl

theorem breakFree_of_mem_split {text line : Text} (h : line ∈ split text) : BreakFree line := by
  fun_induction split text generalizing line with
  | case1 =>
    obtain rfl : line = [] := by simpa using h
    simp [BreakFree]
  | case2 rest ih =>
    rcases List.mem_cons.mp h with rfl | h
    · simp [BreakFree]
    · exact ih h
  | case3 c rest hpair hb ih =>
    rcases List.mem_cons.mp h with rfl | h
    · simp [BreakFree]
    · exact ih h
  | case4 c rest hpair hb ih =>
    cases hs : split rest with
    | nil => exact (split_ne_nil rest hs).elim
    | cons first lines =>
      rw [hs] at h ih
      rcases List.mem_cons.mp h with rfl | h
      · have hfirst := ih List.mem_cons_self
        intro d hd
        rcases List.mem_cons.mp hd with rfl | hd
        · simpa using hb
        · exact hfirst d hd
      · exact ih (List.mem_cons_of_mem first h)

theorem split_of_breakFree {text : Text} (h : BreakFree text) : split text = [text] := by
  induction text with
  | nil => rfl
  | cons c rest ih =>
    have hc := h c List.mem_cons_self
    have hrest : BreakFree rest := fun d hd => h d (List.mem_cons_of_mem c hd)
    rw [split_cons_of_not_isBreak hc, ih hrest]
    rfl

theorem split_breakFree_append {front rest : Text} {lines : List Text} (hfront : BreakFree front)
    (hrest : split rest = [] :: lines) : split (front ++ rest) = front :: lines := by
  induction front with
  | nil => exact hrest
  | cons c front ih =>
    have hc := hfront c List.mem_cons_self
    rw [List.cons_append, split_cons_of_not_isBreak hc,
      ih fun d hd => hfront d (List.mem_cons_of_mem c hd)]
    rfl

theorem settled_append_openReturn (text : Text) : settled text ++ openReturn text = text := by
  unfold settled openReturn
  split
  · rename_i h
    obtain ⟨front, rfl⟩ := List.getLast?_eq_some_iff.mp h
    simp
  · simp

/-- A carriage return in front of what is left open is never followed by a line feed there. -/
theorem head?_openReturn_append {text : Text} (more : Text)
    (h : (settled text).getLast? = some '\r') :
    (openReturn text ++ more).head? ≠ some '\n' := by
  unfold settled at h
  unfold openReturn
  split at h
  · rename_i hreturn
    simp [hreturn]
  · contradiction

theorem settled_append {chunk : Text} (text : Text) (h : chunk ≠ []) :
    settled (text ++ chunk) = text ++ settled chunk := by
  unfold settled
  rw [List.getLast?_append_of_ne_nil text h, List.dropLast_append_of_ne_nil h]
  split <;> rfl

theorem openReturn_append {chunk : Text} (text : Text) (h : chunk ≠ []) :
    openReturn (text ++ chunk) = openReturn chunk := by
  unfold openReturn
  rw [List.getLast?_append_of_ne_nil text h]

theorem length_split_cons {c : Char} {rest : Text} (h : c = '\r' → rest.head? ≠ some '\n') :
    (split (c :: rest)).length = (split rest).length + if isBreak c then 1 else 0 := by
  rw [split_cons h]
  split
  · rfl
  · exact length_extendHead (split_ne_nil rest)

theorem length_split_settled (text : Text) :
    (split (settled text)).length = completed text + 1 := by
  fun_induction completed text with
  | case1 => rfl
  | case2 => rfl
  | case3 c hc =>
    by_cases hreturn : c = '\r'
    · simp [settled, hreturn, split]
    · have hfree : BreakFree [c] := by simp [BreakFree, isBreak, hreturn, hc]
      simp [settled, hreturn, split_of_breakFree hfree]
  | case4 c d rest ih =>
    have hsettled : settled (c :: d :: rest) = c :: settled (d :: rest) :=
      settled_append [c] (List.cons_ne_nil d rest)
    rw [hsettled]
    by_cases hpair : c = '\r' ∧ d = '\n'
    · -- the break goes on, so it is counted at its line feed
      obtain ⟨rfl, rfl⟩ := hpair
      have hfeed : ∃ tail, settled ('\n' :: rest) = '\n' :: tail := by
        cases rest with
        | nil => exact ⟨[], rfl⟩
        | cons e rest => exact ⟨_, settled_append ['\n'] (List.cons_ne_nil e rest)⟩
      obtain ⟨tail, htail⟩ := hfeed
      rw [htail] at ih ⊢
      simpa [split, isBreak] using ih
    · have hhead : c = '\r' → (settled (d :: rest)).head? ≠ some '\n' := by
        rintro rfl
        have hd : d ≠ '\n' := fun hd => hpair ⟨rfl, hd⟩
        unfold settled
        split
        · cases rest <;> simp [hd]
        · simpa using hd
      have hcount : (isBreak c = true) ↔ (c = '\n' ∨ (c = '\r' ∧ d ≠ '\n')) := by
        simp only [isBreak, Bool.or_eq_true, beq_iff_eq]
        tauto
      simp only [length_split_cons hhead, ih, hcount]
      omega

namespace Buffer

theorem cut_eq {text : Text} {lines : List Text} {last : Text}
    (h : split (settled text) = lines ++ [last]) : cut text = (lines, last ++ openReturn text) := by
  unfold settled at h
  unfold cut openReturn
  by_cases hreturn : text.getLast? = some '\r'
  · rw [if_pos hreturn] at h
    simp [hreturn, h]
  · rw [if_neg hreturn] at h
    simp [hreturn, h]

theorem cut_fst (text : Text) : (cut text).1 = (split (settled text)).dropLast := by
  obtain ⟨lines, last, h⟩ := exists_split_eq_append (settled text)
  rw [cut_eq h, h]
  simp

theorem length_cut (text : Text) : (cut text).1.length = completed text := by
  rw [cut_fst, List.length_dropLast, length_split_settled]
  rfl

/-- Complete lines stay as they are, whatever arrives later. -/
theorem split_append_cut (text more : Text) :
    split (text ++ more) = (cut text).1 ++ split ((cut text).2 ++ more) := by
  obtain ⟨lines, last, h⟩ := exists_split_eq_append (settled text)
  have happend := split_append h (head?_openReturn_append more)
  rw [← List.append_assoc, settled_append_openReturn] at happend
  rw [cut_eq h, happend, List.append_assoc]

theorem split_eq_cut (text : Text) : split text = (cut text).1 ++ split (cut text).2 := by
  simpa using split_append_cut text []

theorem cut_eq_take (text more : Text) :
    (cut text).1 = (split (text ++ more)).take (completed text) := by
  rw [split_append_cut, ← length_cut, List.take_left]

/-- What is held is one unfinished line, with or without a carriage return after it. -/
theorem exists_cut_eq (text : Text) :
    ∃ lines last, BreakFree last ∧ cut text = (lines, last ++ openReturn text) := by
  obtain ⟨lines, last, h⟩ := exists_split_eq_append (settled text)
  exact ⟨lines, last, breakFree_of_mem_split (by rw [h]; simp), cut_eq h⟩

theorem cut_of_breakFree {text : Text} (h : BreakFree text) : cut text = ([], text) := by
  have hreturn : text.getLast? ≠ some '\r' := by
    intro hlast
    have := h '\r' (List.mem_of_getLast? hlast)
    simp [isBreak] at this
  have hsplit : split (settled text) = [] ++ [text] := by
    simp [settled, hreturn, split_of_breakFree h]
  simpa [openReturn, hreturn] using cut_eq hsplit

theorem cut_cut (text : Text) : cut (cut text).2 = ([], (cut text).2) := by
  obtain ⟨lines, last, hlast, h⟩ := exists_cut_eq text
  rw [h]
  by_cases hreturn : text.getLast? = some '\r'
  · have hsplit : split (settled (last ++ ['\r'])) = [] ++ [last] := by
      simp [settled, split_of_breakFree hlast]
    simpa [hreturn, openReturn] using cut_eq hsplit
  · simpa [hreturn, openReturn] using cut_of_breakFree hlast

/-- Cutting in two steps is cutting once: the held text stands for all that has arrived. -/
theorem cut_append (text chunk : Text) :
    cut (text ++ chunk) =
      ((cut text).1 ++ (cut ((cut text).2 ++ chunk)).1, (cut ((cut text).2 ++ chunk)).2) := by
  by_cases hchunk : chunk = []
  · subst hchunk
    simp [cut_cut]
  · obtain ⟨lines, last, h⟩ := exists_split_eq_append ((cut text).2 ++ settled chunk)
    have hwhole : split (settled (text ++ chunk)) = ((cut text).1 ++ lines) ++ [last] := by
      rw [settled_append text hchunk, split_append_cut, h, List.append_assoc]
    have hheld : split (settled ((cut text).2 ++ chunk)) = lines ++ [last] := by
      rw [settled_append _ hchunk, h]
    rw [cut_eq hwhole, cut_eq hheld, openReturn_append _ hchunk, openReturn_append _ hchunk]

theorem completed_mono (text more : Text) : completed text ≤ completed (text ++ more) := by
  rw [← length_cut, ← length_cut, cut_append]
  simp

structure Holds (buffer : Buffer) (text : Text) : Prop where
  pieces_ne_nil : ∀ piece ∈ buffer.pieces, piece ≠ []
  pending_eq : buffer.pending = (cut text).2

theorem holds_empty : Holds {} [] where
  pieces_ne_nil := by simp
  pending_eq := rfl

theorem pending_holding (text : Text) : (holding text).pending = text := by
  unfold holding
  split
  · rename_i h
    simp [pending, h]
  · simp [pending]

theorem holding_pieces_ne_nil (text : Text) : ∀ piece ∈ (holding text).pieces, piece ≠ [] := by
  unfold holding
  split
  · simp
  · rename_i h
    simpa using h

/-- Looking at the newest piece is enough, because no piece is empty. -/
theorem endsInReturn_iff {buffer : Buffer} (h : ∀ piece ∈ buffer.pieces, piece ≠ []) :
    buffer.endsInReturn = true ↔ buffer.pending.getLast? = some '\r' := by
  obtain ⟨pieces⟩ := buffer
  cases pieces with
  | nil => simp [endsInReturn, pending]
  | cons piece pieces =>
    have hpiece : piece ≠ [] := h piece List.mem_cons_self
    simp [endsInReturn, pending, List.getLast?_eq_some_getLast hpiece]

/-- A held text that does not end in a carriage return has no break at all. -/
theorem Holds.breakFree_pending {buffer : Buffer} {text : Text} (h : buffer.Holds text)
    (hreturn : buffer.pending.getLast? ≠ some '\r') : BreakFree buffer.pending := by
  obtain ⟨lines, last, hlast, hcut⟩ := exists_cut_eq text
  have hpending : buffer.pending = last ++ openReturn text := by rw [h.pending_eq, hcut]
  by_cases hopen : text.getLast? = some '\r'
  · simp [hpending, openReturn, hopen] at hreturn
  · simpa [hpending, openReturn, hopen] using hlast

/-- A chunk hands out the lines that it completes. The case that skips the splitting is the one
in which nothing could be split. -/
theorem feed_eq_cut {buffer : Buffer} {text : Text} (h : buffer.Holds text) (chunk : Text) :
    (buffer.feed chunk).1.Holds (text ++ chunk) ∧
      (cut text).1 ++ (buffer.feed chunk).2 = (cut (text ++ chunk)).1 := by
  by_cases hslow : (buffer.endsInReturn || chunk.any isBreak) = true
  · simp only [feed, hslow, if_true]
    refine ⟨⟨holding_pieces_ne_nil _, ?_⟩, ?_⟩
    · rw [pending_holding, cut_append text, h.pending_eq]
    · rw [cut_append text, h.pending_eq]
  · obtain ⟨hreturn, hchunk⟩ : buffer.endsInReturn = false ∧ chunk.any isBreak = false := by
      simpa using hslow
    have hpending : BreakFree buffer.pending := h.breakFree_pending (by
      rw [Ne, ← endsInReturn_iff h.pieces_ne_nil, hreturn]
      simp)
    have hfree : BreakFree (buffer.pending ++ chunk) := by
      intro c hc
      rcases List.mem_append.mp hc with hc | hc
      · exact hpending c hc
      · simpa using List.any_eq_false.mp hchunk c hc
    have hcut : cut (text ++ chunk) = ((cut text).1, buffer.pending ++ chunk) := by
      rw [cut_append, ← h.pending_eq, cut_of_breakFree hfree]
      simp
    by_cases hempty : chunk = []
    · subst hempty
      simpa [feed, hreturn] using h
    · refine ⟨⟨?_, ?_⟩, ?_⟩
      · simpa [feed, hreturn, hchunk, hempty] using h.pieces_ne_nil
      · simp [feed, hreturn, hchunk, hempty, hcut, pending]
      · simp [feed, hreturn, hchunk, hempty, hcut]

end Buffer

end SlashDoc.Line
