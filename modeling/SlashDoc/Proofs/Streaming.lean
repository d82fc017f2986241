import Mathlib.Data.List.Induction
import Mathlib.Order.Bounds.Basic
import SlashDoc.Extraction.Document
import SlashDoc.Proofs.ExtractionRun
import SlashDoc.Proofs.LineAssembly

/-!
# Extraction from a stream

A stream delivers the blocks of the text that its chunks make up, however the text is divided.
It delivers each of them with the first chunk that completes the line after the block. Only the
blocks that are still open when the chunks run out are delivered later, at the end of the stream.
-/
namespace SlashDoc

open Line Line.Buffer

variable {settings : Settings}

namespace Stream

structure Tracks (settings : Settings) (stream : Stream) (chunks : List Text) : Prop where
  buffer : stream.buffer.Holds chunks.flatten
  extraction : stream.extraction = Extraction.feedAll settings {} (cut chunks.flatten).1
  blocks : stream.blocks = stream.extraction.blocks
  chunksRead : stream.chunksRead = chunks.length

theorem tracks_empty : Tracks settings {} [] where
  buffer := holds_empty
  extraction := rfl
  blocks := rfl
  chunksRead := rfl

theorem blocks_advance {stream : Stream} {extraction : Extraction}
    (hblocks : stream.blocks = stream.extraction.blocks)
    (hgrows : stream.extraction.blocks <+: extraction.blocks) :
    (stream.advance extraction).blocks = extraction.blocks := by
  obtain ⟨added, hadded⟩ := hgrows
  have hdrop : extraction.blocks.drop stream.extraction.blocks.length = added := by
    rw [← hadded, List.drop_left]
  have hmap : (stream.advance extraction).blocks = stream.blocks ++ added := by
    simp [blocks, advance, hdrop, Function.comp_def]
  rw [hmap, hblocks, hadded]

theorem Tracks.feed {stream : Stream} {chunks : List Text} (h : Tracks settings stream chunks)
    (chunk : Text) : Tracks settings (stream.feed settings chunk) (chunks ++ [chunk]) := by
  obtain ⟨hholds, hlines⟩ := feed_eq_cut h.buffer chunk
  constructor
  · simpa [Stream.feed, advance] using hholds
  · have hmore : (cut (chunks ++ [chunk]).flatten).1 =
        (cut chunks.flatten).1 ++ (stream.buffer.feed chunk).2 := by
      simpa using hlines.symm
    rw [hmore, Extraction.feedAll_append, ← h.extraction]
    rfl
  · exact blocks_advance h.blocks (Extraction.blocks_prefix_feedAll settings _ _)
  · simp [Stream.feed, advance, h.chunksRead]

theorem Tracks.feedAll {stream : Stream} {before : List Text}
    (h : Tracks settings stream before) (chunks : List Text) :
    Tracks settings (stream.feedAll settings chunks) (before ++ chunks) := by
  induction chunks generalizing stream before with
  | nil => simpa [Stream.feedAll] using h
  | cons chunk chunks ih =>
    have hrest := ih (h.feed chunk)
    simpa [Stream.feedAll] using hrest

theorem tracks_feedAll (settings : Settings) (chunks : List Text) :
    Tracks settings (feedAll settings {} chunks) chunks := by
  simpa using tracks_empty.feedAll chunks

theorem Tracks.finish_blocks {stream : Stream} {chunks : List Text}
    (h : Tracks settings stream chunks) :
    (stream.finish settings).blocks = extractBlocks settings chunks.flatten := by
  have hsplit := split_eq_cut chunks.flatten
  rw [← h.buffer.pending_eq] at hsplit
  rw [extractBlocks, Extraction.ofText, hsplit, Extraction.feedAll_append, ← h.extraction]
  exact blocks_advance h.blocks ((Extraction.blocks_prefix_feedAll settings _ _).trans
    (Extraction.blocks_prefix_finish settings _))

end Stream

/-- However a text is divided into chunks, streaming them gives the blocks and the document of the
whole text. -/
theorem stream_eq_extract (settings : Settings) (chunks : List Text) :
    (Stream.ofChunks settings chunks).blocks = extractBlocks settings chunks.flatten ∧
      (Stream.ofChunks settings chunks).document = extractDocument settings chunks.flatten := by
  have hblocks : (Stream.ofChunks settings chunks).blocks = extractBlocks settings chunks.flatten :=
    (Stream.tracks_feedAll settings chunks).finish_blocks
  refine ⟨hblocks, ?_⟩
  rw [Stream.document, hblocks]
  rfl

/-- The block with number `i` is closed by the line with number `j`: it is not among the blocks of
the lines before, and it is among the blocks of the lines up to there. -/
def ClosedBy (settings : Settings) (lines : List Text) (i j : ℕ) : Prop :=
  (Extraction.feedAll settings {} (lines.take j)).blocks.length ≤ i ∧
    i < (Extraction.feedAll settings {} (lines.take (j + 1))).blocks.length

theorem exists_closedBy {lines : List Text} {i m : ℕ}
    (h : i < (Extraction.feedAll settings {} (lines.take m)).blocks.length) :
    ∃ j, ClosedBy settings lines i j := by
  induction m with
  | zero => simp at h
  | succ m ih =>
    by_cases hm : i < (Extraction.feedAll settings {} (lines.take m)).blocks.length
    · exact ih hm
    · exact ⟨m, by omega, h⟩

/-- The first `m` lines give a block exactly if the line that closes it is one of them. -/
theorem ClosedBy.lt_iff {lines : List Text} {i j : ℕ} (h : ClosedBy settings lines i j) (m : ℕ) :
    j < m ↔ i < (Extraction.feedAll settings {} (lines.take m)).blocks.length := by
  obtain ⟨hlow, hhigh⟩ := h
  constructor
  · intro hjm
    exact hhigh.trans_le (Extraction.length_blocks_take_mono settings {} lines hjm)
  · intro him
    by_contra hmj
    have hmono := Extraction.length_blocks_take_mono settings {} lines (Nat.le_of_not_lt hmj)
    omega

namespace Stream

theorem feedAll_append (stream : Stream) (before after : List Text) :
    stream.feedAll settings (before ++ after) =
      (stream.feedAll settings before).feedAll settings after :=
  List.foldl_append

theorem deliveries_prefix_feedAll (settings : Settings) (stream : Stream) (chunks : List Text) :
    stream.deliveries <+: (stream.feedAll settings chunks).deliveries := by
  induction chunks generalizing stream with
  | nil => exact List.prefix_rfl
  | cons chunk chunks ih =>
    exact (List.prefix_append _ _).trans (ih (stream.feed settings chunk))

theorem length_blocks (stream : Stream) : stream.blocks.length = stream.deliveries.length := by
  simp [blocks]

theorem deliveries_feed (settings : Settings) (stream : Stream) (chunk : Text) :
    ∃ added : List Block, (stream.feed settings chunk).deliveries =
      stream.deliveries ++ added.map fun block => ⟨stream.chunksRead + 1, block⟩ :=
  ⟨_, rfl⟩

theorem deliveries_finish (settings : Settings) (stream : Stream) :
    ∃ added : List Block, (stream.finish settings).deliveries =
      stream.deliveries ++ added.map fun block => ⟨stream.chunksRead, block⟩ :=
  ⟨_, rfl⟩

/-- The number of a delivered block lies between the numbers of blocks before and after the chunk
with which it is delivered. -/
theorem exists_of_getElem?_deliveries {chunks : List Text} {i : ℕ} {delivery : Delivery}
    (h : (feedAll settings {} chunks).deliveries[i]? = some delivery) :
    ∃ n < chunks.length, delivery.chunksRead = n + 1 ∧
      (feedAll settings {} (chunks.take n)).blocks.length ≤ i ∧
      i < (feedAll settings {} (chunks.take (n + 1))).blocks.length := by
  -- the last chunk is taken away: every delivery of the others keeps its number
  induction chunks using List.reverseRecOn with
  | nil => simp [feedAll] at h
  | append_singleton chunks chunk ih =>
    have hread := (tracks_feedAll settings chunks).chunksRead
    have hlast : feedAll settings {} (chunks ++ [chunk]) =
        (feedAll settings {} chunks).feed settings chunk := feedAll_append _ _ _
    have hlength := (List.getElem?_eq_some_iff.mp h).1
    obtain ⟨added, hadded⟩ := deliveries_feed settings (feedAll settings {} chunks) chunk
    rw [hlast, hadded] at h
    by_cases hi : i < (feedAll settings {} chunks).deliveries.length
    · rw [List.getElem?_append_left hi] at h
      obtain ⟨n, hn, hchunk, hlow, hhigh⟩ := ih h
      refine ⟨n, by simp; omega, hchunk, ?_, ?_⟩
      · rwa [List.take_append_of_le_length (by omega)]
      · rwa [List.take_append_of_le_length (by omega)]
    · rw [List.getElem?_append_right (by omega), List.getElem?_map] at h
      obtain ⟨block, -, rfl⟩ := Option.map_eq_some_iff.mp h
      refine ⟨chunks.length, by simp, by simp [hread], ?_, ?_⟩
      · rw [List.take_left, length_blocks]
        omega
      · rw [List.take_of_length_le (by simp), length_blocks]
        exact hlength

/-- The chunks that have arrived give the blocks of the lines that they complete. -/
theorem blocks_take (settings : Settings) (chunks : List Text) (k : ℕ) :
    (feedAll settings {} (chunks.take k)).blocks =
      (Extraction.feedAll settings {}
        ((split chunks.flatten).take (completed (chunks.take k).flatten))).blocks := by
  have h := tracks_feedAll settings (chunks.take k)
  rw [h.blocks, h.extraction, cut_eq_take _ (chunks.drop k).flatten, ← List.flatten_append,
    List.take_append_drop]

theorem completed_take_mono (chunks : List Text) {m n : ℕ} (h : m ≤ n) :
    completed (chunks.take m).flatten ≤ completed (chunks.take n).flatten := by
  obtain ⟨tail, htail⟩ := List.take_prefix_take_left (l := chunks) h
  rw [← htail, List.flatten_append]
  exact completed_mono _ _

theorem isLeast_chunksRead {chunks : List Text} {i j n : ℕ}
    (hclosed : ClosedBy settings (split chunks.flatten) i j)
    (hlow : (feedAll settings {} (chunks.take n)).blocks.length ≤ i)
    (hhigh : i < (feedAll settings {} (chunks.take (n + 1))).blocks.length) :
    IsLeast {k | j < completed (chunks.take k).flatten} (n + 1) := by
  rw [blocks_take] at hlow hhigh
  refine ⟨(hclosed.lt_iff _).mpr hhigh, ?_⟩
  intro k hk
  by_contra hkn
  have hmono := completed_take_mono chunks (show k ≤ n by omega)
  have hearly := (hclosed.lt_iff _).mp (Nat.lt_of_lt_of_le hk hmono)
  omega

theorem deliveries_take_prefix (settings : Settings) (chunks : List Text) (k : ℕ) :
    (feedAll settings {} (chunks.take k)).deliveries <+:
      (ofChunks settings chunks).deliveries := by
  have hrest : (feedAll settings {} (chunks.take k)).feedAll settings (chunks.drop k) =
      feedAll settings {} chunks := by
    rw [← feedAll_append, List.take_append_drop]
  obtain ⟨added, hadded⟩ := deliveries_finish settings (feedAll settings {} chunks)
  rw [ofChunks, hadded, ← hrest]
  exact (deliveries_prefix_feedAll settings _ _).trans (List.prefix_append _ _)

/-- A block that is delivered with a chunk is closed by a line that the chunk completes. -/
theorem exists_closedBy_isLeast {chunks : List Text} {i : ℕ} {delivery : Delivery}
    (h : (feedAll settings {} chunks).deliveries[i]? = some delivery) :
    ∃ j, ClosedBy settings (split chunks.flatten) i j ∧
      IsLeast {k | j < completed (chunks.take k).flatten} delivery.chunksRead := by
  obtain ⟨n, -, hread, hlow, hhigh⟩ := exists_of_getElem?_deliveries h
  have hblocks := blocks_take settings chunks (n + 1)
  obtain ⟨j, hj⟩ : ∃ j, ClosedBy settings (split chunks.flatten) i j :=
    exists_closedBy (hblocks ▸ hhigh)
  rw [hread]
  exact ⟨j, hj, isLeast_chunksRead hj hlow hhigh⟩

/-- A block that no chunk has delivered is not closed by a complete line. -/
theorem not_closedBy_of_length_le {chunks : List Text} {i : ℕ}
    (hi : (feedAll settings {} chunks).deliveries.length ≤ i) :
    ∀ j < completed chunks.flatten, ¬ClosedBy settings (split chunks.flatten) i j := by
  intro j hj hclosed
  have hblocks := blocks_take settings chunks chunks.length
  rw [List.take_length] at hblocks
  have hearly := (hclosed.lt_iff _).mp hj
  rw [← hblocks, length_blocks] at hearly
  omega

end Stream

/-- After any number of chunks a stream has delivered the blocks of the complete lines, where a
final carriage return does not complete a line yet. So a block is delivered with the first chunk
that completes the line which closes it; a block that no complete line closes is delivered when the
chunks have run out. -/
theorem deliveries_at_complete_lines (settings : Settings) (chunks : List Text) :
    (∀ k, (Stream.feedAll settings {} (chunks.take k)).blocks =
        (Extraction.feedAll settings {}
          (split (settled (chunks.take k).flatten)).dropLast).blocks ∧
      (Stream.feedAll settings {} (chunks.take k)).deliveries <+:
        (Stream.ofChunks settings chunks).deliveries) ∧
    ∀ i delivery, (Stream.ofChunks settings chunks).deliveries[i]? = some delivery →
      (∃ j, ClosedBy settings (split chunks.flatten) i j ∧
        IsLeast {k | j < completed (chunks.take k).flatten} delivery.chunksRead) ∨
      ((∀ j < completed chunks.flatten, ¬ClosedBy settings (split chunks.flatten) i j) ∧
        delivery.chunksRead = chunks.length) := by
  constructor
  · intro k
    have h := Stream.tracks_feedAll settings (chunks.take k)
    refine ⟨?_, Stream.deliveries_take_prefix settings chunks k⟩
    rw [h.blocks, h.extraction, cut_fst]
  · intro i delivery h
    obtain ⟨added, hadded⟩ := Stream.deliveries_finish settings (Stream.feedAll settings {} chunks)
    rw [Stream.ofChunks, hadded] at h
    by_cases hi : i < (Stream.feedAll settings {} chunks).deliveries.length
    · rw [List.getElem?_append_left hi] at h
      exact Or.inl (Stream.exists_closedBy_isLeast h)
    · rw [List.getElem?_append_right (by omega), List.getElem?_map] at h
      obtain ⟨block, -, rfl⟩ := Option.map_eq_some_iff.mp h
      exact Or.inr ⟨Stream.not_closedBy_of_length_le (by omega),
        (Stream.tracks_feedAll settings chunks).chunksRead⟩

/-- The blank line after the comment stands between two carriage returns. The second one ends a
chunk, so the block comes with the chunk after that, though the text goes on. -/
theorem delivery_waits_for_next_character :
    let chunks := ["// a\r".toList, "\r".toList, "b".toList, "c".toList]
    (Stream.ofChunks {} chunks).deliveries[0]? =
        some ⟨3, { index := 0, closing := .blankLine, lines := ["a".toList] }⟩ ∧
      ∃ j, ClosedBy {} (split chunks.flatten) 0 j ∧
        IsLeast {k | j < completed (chunks.take k).flatten} 3 := by
  intro chunks
  have hdelivery : (Stream.ofChunks {} chunks).deliveries[0]? =
      some ⟨3, { index := 0, closing := .blankLine, lines := ["a".toList] }⟩ := by decide
  refine ⟨hdelivery, ?_⟩
  rcases (deliveries_at_complete_lines {} chunks).2 0 _ hdelivery with hline | ⟨-, hend⟩
  · exact hline
  · cases hend

end SlashDoc
