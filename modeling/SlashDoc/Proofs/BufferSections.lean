import SlashDoc.Proofs.LineAssembly

/-!
# A buffer that serves for several texts

A buffer can be closed at any time and then serves for the next text. A section of its inputs is
what lies between two closes. Nothing of a section reaches the next one: its lines are those of the
text that was fed in it, and what is held in the middle of it is the unfinished line of that text.
-/
namespace SlashDoc.Line

namespace Buffer

inductive Input where
  | chunk (text : Text)
  | close
  deriving DecidableEq, Repr

def take (buffer : Buffer) : Input → Buffer × List Text
  | .chunk text => buffer.feed text
  | .close => buffer.close

def run : Buffer → List Input → Buffer × List (List Text)
  | buffer, [] => (buffer, [])
  | buffer, input :: inputs =>
    let (next, lines) := buffer.take input
    let (final, later) := run next inputs
    (final, lines :: later)

theorem run_append (buffer : Buffer) (before after : List Input) :
    run buffer (before ++ after) =
      ((run (run buffer before).1 after).1,
        (run buffer before).2 ++ (run (run buffer before).1 after).2) := by
  induction before generalizing buffer with
  | nil => rfl
  | cons input before ih => simp [run, ih]

theorem length_run (buffer : Buffer) (inputs : List Input) :
    (run buffer inputs).2.length = inputs.length := by
  induction inputs generalizing buffer with
  | nil => rfl
  | cons input inputs ih => simp [run, ih]

/-- The outputs for inputs in the middle depend on what comes before by the buffer alone. -/
theorem run_middle (buffer : Buffer) (before middle after : List Input) :
    ((run buffer (before ++ middle ++ after)).2.drop before.length).take middle.length =
      (run (run buffer before).1 middle).2 := by
  have hbefore := length_run buffer before
  have hmiddle := length_run (run buffer before).1 middle
  rw [List.append_assoc, run_append, run_append, ← hbefore, List.drop_left, ← hmiddle,
    List.take_left]

theorem run_close (buffer : Buffer) (inputs : List Input) :
    (run buffer (inputs ++ [.close])).1 = {} := by
  rw [run_append]
  rfl

theorem run_eq_empty {inputs : List Input}
    (h : inputs = [] ∨ inputs.getLast? = some .close) : (run {} inputs).1 = {} := by
  rcases h with rfl | h
  · rfl
  · obtain ⟨front, rfl⟩ := List.getLast?_eq_some_iff.mp h
    exact run_close {} front

/-- The chunks of a section hand out the lines that they complete. -/
theorem Holds.run_chunks {buffer : Buffer} {text : Text} (h : buffer.Holds text)
    (chunks : List Text) :
    (run buffer (chunks.map .chunk)).1.Holds (text ++ chunks.flatten) ∧
      (cut text).1 ++ (run buffer (chunks.map .chunk)).2.flatten =
        (cut (text ++ chunks.flatten)).1 := by
  induction chunks generalizing buffer text with
  | nil => simpa [run] using h
  | cons chunk chunks ih =>
    obtain ⟨hnext, hlines⟩ := feed_eq_cut h chunk
    obtain ⟨hholds, hrest⟩ := ih hnext
    rw [← hlines] at hrest
    simpa [run, take] using And.intro hholds hrest

/-- What is held has no line feed, and a carriage return only at its end. -/
theorem Holds.pending_breaks {buffer : Buffer} {text : Text} (h : buffer.Holds text) :
    '\n' ∉ buffer.pending ∧ '\r' ∉ buffer.pending.dropLast := by
  obtain ⟨lines, last, hlast, hcut⟩ := exists_cut_eq text
  have hfeed : '\n' ∉ last := fun hmem => by simpa [isBreak] using hlast _ hmem
  have hreturn : '\r' ∉ last := fun hmem => by simpa [isBreak] using hlast _ hmem
  rw [h.pending_eq, hcut]
  unfold openReturn
  split
  · simpa using ⟨hfeed, hreturn⟩
  · simpa using ⟨hfeed, fun hmem => hreturn (List.dropLast_subset _ hmem)⟩

theorem Holds.pending_eq_getLast {buffer : Buffer} {text : Text} (h : buffer.Holds text) :
    buffer.pending = (split (settled text)).getLast (split_ne_nil _) ++ openReturn text := by
  rw [h.pending_eq, cut_eq (List.dropLast_append_getLast (split_ne_nil (settled text))).symm]

/-- A section hands out all lines of its text; the last ones come with its end. -/
theorem run_section (chunks : List Text) :
    (run {} (chunks.map .chunk ++ [.close])).2.flatten = split chunks.flatten := by
  obtain ⟨hholds, hlines⟩ := holds_empty.run_chunks chunks
  have hclose : (run (run {} (chunks.map .chunk)).1 [.close]).2.flatten =
      split (cut chunks.flatten).2 := by
    simp [run, take, close, hholds.pending_eq]
  rw [run_append, List.flatten_append, hclose, split_eq_cut chunks.flatten]
  simpa [cut, split] using hlines

end Buffer

open Buffer

/-- Whatever a buffer was used for before, a section hands out the lines of the text that is fed in
it and leaves the buffer as new. In the middle of a section the buffer holds the unfinished line of
that text, behind it the carriage return that may end the text, and no other part of a break. -/
theorem sections_give_lines (earlier later : List Input) (chunks : List Text)
    (h : earlier = [] ∨ earlier.getLast? = some .close) :
    let text := chunks.flatten
    let whole := chunks.map Input.chunk ++ [.close]
    let outputs := (run {} (earlier ++ whole ++ later)).2
    let held := (run {} (earlier ++ chunks.map .chunk)).1.pending
    ((outputs.drop earlier.length).take whole.length).flatten = split text ∧
      (run {} (earlier ++ whole)).1 = {} ∧
      held = (split (settled text)).getLast (split_ne_nil _) ++ openReturn text ∧
      '\n' ∉ held ∧ '\r' ∉ held.dropLast := by
  intro text whole outputs held
  have hempty := run_eq_empty h
  have hholds : (run {} (earlier ++ chunks.map .chunk)).1.Holds text := by
    rw [run_append, hempty]
    simpa using (holds_empty.run_chunks chunks).1
  refine ⟨?_, ?_, hholds.pending_eq_getLast, hholds.pending_breaks⟩
  · rw [run_middle, hempty, run_section]
  · rw [← List.append_assoc, run_close]

/-- The first section ends within a break, and the next one does not know of it: its line feed is a
break of its own, and only its own carriage return is held. -/
theorem sections_give_lines_across_return :
    let earlier : List Input := [.chunk "a\r".toList, .close]
    let chunks := ["\nb".toList, "\r".toList]
    let outputs := (run {} (earlier ++ (chunks.map .chunk ++ [.close]) ++ [.close])).2
    earlier.getLast? = some .close ∧
      ((outputs.drop 2).take 3).flatten = ["".toList, "b".toList, "".toList] ∧
      (run {} (earlier ++ chunks.map .chunk)).1.pending = "b\r".toList := by
  intro earlier chunks outputs
  have h := sections_give_lines earlier [.close] chunks (Or.inr rfl)
  exact ⟨rfl, h.1.trans (by decide), h.2.2.1.trans (by decide)⟩

end SlashDoc.Line
