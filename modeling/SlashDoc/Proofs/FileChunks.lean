import SlashDoc.Command.Run
import SlashDoc.Proofs.Streaming
import SlashDoc.Proofs.Utf8

/-!
# The chunks of a file

A file is taken in blocks of bytes and delivered in chunks of characters. A block may end within a
character, a carriage return at its end is held back, and a fault in a later block comes up only
after chunks have been delivered. None of this shows in the chunks: they are the text of the file,
or the beginning of what can be decoded of it.
-/
namespace SlashDoc

namespace Reader

def waiting (reader : Reader) : Text :=
  reader.ready ++ if reader.heldReturn then ['\r'] else []

theorem dropLast_append_return (text : Text) :
    (if text.getLast? = some '\r' then text.dropLast else text) ++
      (if text.getLast? = some '\r' then ['\r'] else []) = text := by
  cases text using List.reverseRecOn with
  | nil => rfl
  | append_singleton front c =>
    by_cases hc : c = '\r'
    · simp [hc]
    · simp [hc]

/-- Nothing is lost when a carriage return is held back. -/
theorem waiting_release (reader : Reader) (last : Bool) (bytes : ℕ) (decoded : Text) :
    (reader.release last bytes decoded).waiting = reader.waiting ++ decoded := by
  have hkept := dropLast_append_return
  cases hheld : reader.heldReturn with
  | false =>
    cases last with
    | true => simp [waiting, release, hheld]
    | false => simp [waiting, release, hheld, hkept]
  | true =>
    cases last with
    | true => simp [waiting, release, hheld]
    | false =>
      by_cases hdecoded : decoded = []
      · simp [waiting, release, hheld, hdecoded]
      · have hreturn := hkept ('\r' :: decoded)
        simpa [waiting, release, hheld, hdecoded] using hreturn

theorem heldReturn_release_last (reader : Reader) (bytes : ℕ) (decoded : Text) :
    (reader.release true bytes decoded).heldReturn = false := by
  simp [release]

/-- A reader in the middle of a file: what has been taken of it is decoded, and it was either
delivered or is waiting. -/
structure Tracks (bytes : List UInt8) (delivered : Text) (reader : Reader) : Prop where
  encoding : reader.encoding = .utf8
  consumed : ∃ consumed, bytes = consumed ++ reader.bytes ∧
    Decoder.run? none consumed = some (delivered ++ reader.waiting, reader.decoder)

structure Exhausted (reader : Reader) : Prop where
  bytes : reader.bytes = []
  decoder : reader.decoder = none
  heldReturn : reader.heldReturn = false

variable {bytes : List UInt8} {delivered : Text} {reader : Reader}

theorem tracks_initial (bytes : List UInt8) :
    Tracks bytes [] { encoding := .utf8, bytes } where
  encoding := rfl
  consumed := ⟨[], rfl, rfl⟩

/-- All that has been decoded is at the start of the file. -/
theorem Tracks.encodeUtf8_prefix (h : Tracks bytes delivered reader) :
    encodeUtf8 (delivered ++ reader.waiting) <+: bytes := by
  obtain ⟨consumed, hbytes, hrun⟩ := h.consumed
  obtain ⟨-, hconsumed⟩ := Decoder.sound_none.run? hrun
  have hconsumed : consumed = encodeUtf8 (delivered ++ reader.waiting) ++ reader.decoder.held :=
    hconsumed
  rw [hbytes, hconsumed, List.append_assoc]
  exact List.prefix_append _ _

theorem Tracks.encodeUtf8_delivered_prefix (h : Tracks bytes delivered reader) :
    encodeUtf8 delivered <+: bytes := by
  have hdecoded := h.encodeUtf8_prefix
  rw [encodeUtf8_append] at hdecoded
  exact (List.prefix_append _ _).trans hdecoded

theorem Tracks.length_delivered (h : Tracks bytes delivered reader) :
    delivered.length ≤ bytes.length :=
  (length_le_encodeUtf8 delivered).trans h.encodeUtf8_delivered_prefix.length_le

theorem Tracks.eq_of_exhausted (h : Tracks bytes delivered reader) (hend : reader.Exhausted) :
    bytes = encodeUtf8 (delivered ++ reader.ready) := by
  obtain ⟨consumed, hbytes, hrun⟩ := h.consumed
  rw [waiting, hend.heldReturn, hend.decoder] at hrun
  rw [hbytes, hend.bytes, List.append_nil]
  exact Decoder.run?_eq_some_none_iff.mp (by simpa using hrun)

theorem Tracks.deliver (h : Tracks bytes delivered reader) (size : ℕ) :
    Tracks bytes (delivered ++ reader.ready.take size)
      { reader with ready := reader.ready.drop size } where
  encoding := h.encoding
  consumed := by
    obtain ⟨consumed, hbytes, hrun⟩ := h.consumed
    refine ⟨consumed, hbytes, ?_⟩
    rw [hrun, waiting, waiting, ← List.append_assoc (_ ++ _), List.append_assoc delivered,
      List.take_append_drop, List.append_assoc]

theorem run?_of_feed {decoder : Decoder} {block : List UInt8}
    {result : Except DecodeFault (Text × Decoder)}
    (h : Decoder.feed .utf8 decoder block = result) :
    Decoder.run? decoder block = result.toOption := by
  rw [← h, ← Decoder.toOption_utf8 decoder.held.length]
  rfl

theorem Tracks.takeBlock (h : Tracks bytes delivered reader) {wanted : ℕ} {next : Reader}
    (htake : reader.takeBlock wanted = .ok next) :
    Tracks bytes delivered next ∧ next.bytes = reader.bytes.drop (reader.blockSize wanted) := by
  obtain ⟨consumed, hbytes, hrun⟩ := h.consumed
  rw [Reader.takeBlock, h.encoding] at htake
  cases hfeed : Decoder.feed .utf8 reader.decoder
      (reader.bytes.take (reader.blockSize wanted)) with
  | error fault =>
    rw [hfeed] at htake
    cases htake
  | ok result =>
    obtain ⟨decoded, decoder⟩ := result
    rw [hfeed] at htake
    obtain rfl := Except.ok.inj htake
    have hblock : Decoder.run? reader.decoder _ = some (decoded, decoder) := run?_of_feed hfeed
    refine ⟨⟨rfl, consumed ++ reader.bytes.take (reader.blockSize wanted), ?_, ?_⟩, rfl⟩
    · change bytes = _ ++ reader.bytes.drop (reader.blockSize wanted)
      rw [List.append_assoc, List.take_append_drop, hbytes]
    · rw [waiting_release, Decoder.run?_append, hrun]
      simp only [Option.bind_some, hblock, Decoder.behind_some, List.append_assoc]
      rfl

/-- A block that cannot be decoded spoils the file. -/
theorem Tracks.takeBlock_error (h : Tracks bytes delivered reader) {wanted : ℕ}
    {fault : DecodeFault} (htake : reader.takeBlock wanted = .error fault) (text : Text) :
    encodeUtf8 text ≠ bytes := by
  obtain ⟨consumed, hbytes, hrun⟩ := h.consumed
  rw [Reader.takeBlock, h.encoding] at htake
  cases hfeed : Decoder.feed .utf8 reader.decoder
      (reader.bytes.take (reader.blockSize wanted)) with
  | error fault =>
    have hblock : Decoder.run? reader.decoder _ = none := run?_of_feed hfeed
    intro htext
    have hwhole := Decoder.run?_eq_some_none_iff.mpr htext.symm
    rw [hbytes, Decoder.run?_append, hrun,
      ← List.take_append_drop (reader.blockSize wanted) reader.bytes] at hwhole
    simp only [Option.bind_some, Decoder.run?_append, hblock] at hwhole
    cases hwhole
  | ok result =>
    rw [hfeed] at htake
    cases htake

theorem Tracks.takeEnd (h : Tracks bytes delivered reader) (hend : reader.bytes = [])
    {next : Reader} (htake : reader.takeEnd = .ok next) :
    Tracks bytes delivered next ∧ next.Exhausted := by
  obtain ⟨consumed, hbytes, hrun⟩ := h.consumed
  cases hdecoder : reader.decoder with
  | some sequence =>
    rw [Reader.takeEnd, hdecoder] at htake
    cases htake
  | none =>
    rw [Reader.takeEnd, hdecoder] at htake
    obtain rfl := Except.ok.inj htake
    refine ⟨⟨h.encoding, consumed, hbytes, ?_⟩, hend, rfl, heldReturn_release_last _ _ _⟩
    rw [waiting_release, hrun, hdecoder, List.append_nil]
    rfl

/-- A character that is still unfinished at the end spoils the file as well. -/
theorem Tracks.takeEnd_error (h : Tracks bytes delivered reader) (hend : reader.bytes = [])
    {fault : DecodeFault} (htake : reader.takeEnd = .error fault) (text : Text) :
    encodeUtf8 text ≠ bytes := by
  obtain ⟨consumed, hbytes, hrun⟩ := h.consumed
  cases hdecoder : reader.decoder with
  | some sequence =>
    intro htext
    have hwhole := Decoder.run?_eq_some_none_iff.mpr htext.symm
    rw [hbytes, hend, List.append_nil, hrun, hdecoder] at hwhole
    cases hwhole
  | none =>
    rw [Reader.takeEnd, hdecoder] at htake
    cases htake

theorem blockSize_pos (reader : Reader) (wanted : ℕ) : 0 < reader.blockSize wanted := by
  have hleast : 0 < leastBlock := by decide
  unfold blockSize
  split
  · exact hleast.trans_le (Nat.le_max_left _ _)
  · exact hleast.trans_le (Nat.le_max_left _ _)

/-- Filling stops with enough characters or at the end of the file. It only fails on a file that is
no text. -/
theorem Tracks.fill (h : Tracks bytes delivered reader) (wanted : ℕ) {looks : ℕ}
    (hlooks : reader.bytes.length < looks) :
    (∀ filled, fill wanted looks reader = .ok filled → Tracks bytes delivered filled ∧
      (wanted ≤ filled.ready.length ∨ filled.Exhausted)) ∧
    ∀ fault, fill wanted looks reader = .error fault → ∀ text, encodeUtf8 text ≠ bytes := by
  induction looks generalizing reader with
  | zero => exact (Nat.not_lt_zero _ hlooks).elim
  | succ looks ih =>
    by_cases henough : wanted ≤ reader.ready.length
    · rw [Reader.fill, if_pos henough]
      refine ⟨fun filled hfilled => ?_, fun fault hfault => (nomatch hfault)⟩
      obtain rfl := Except.ok.inj hfilled
      exact ⟨h, .inl henough⟩
    · rw [Reader.fill, if_neg henough]
      by_cases hend : reader.bytes = []
      · rw [if_pos hend]
        refine ⟨fun filled hfilled => ?_, fun fault hfault => h.takeEnd_error hend hfault⟩
        obtain ⟨htracks, hexhausted⟩ := h.takeEnd hend hfilled
        exact ⟨htracks, .inr hexhausted⟩
      · rw [if_neg hend]
        cases htake : reader.takeBlock (wanted - reader.ready.length) with
        | error fault =>
          exact ⟨fun filled hfilled => (nomatch hfilled), fun _ _ => h.takeBlock_error htake⟩
        | ok next =>
          obtain ⟨htracks, hbytes⟩ := h.takeBlock htake
          have hsize := blockSize_pos reader (wanted - reader.ready.length)
          have hpos : 0 < reader.bytes.length := List.length_pos_iff.mpr hend
          have hfewer : next.bytes.length < looks := by
            rw [hbytes, List.length_drop]
            omega
          exact ih htracks hfewer

/-- Chunks of one size. Only the last one may be smaller, and none is empty. -/
structure Sized (size : ℕ) (chunks : List Text) : Prop where
  full : ∀ chunk ∈ chunks.dropLast, chunk.length = size
  bounded : ∀ chunk ∈ chunks, chunk ≠ [] ∧ chunk.length ≤ size

theorem sized_nil (size : ℕ) : Sized size [] :=
  ⟨by simp, by simp⟩

theorem Sized.cons {size : ℕ} {chunk : Text} {chunks : List Text} (h : Sized size chunks)
    (hne : chunk ≠ []) (hle : chunk.length ≤ size) (hfull : chunks ≠ [] → chunk.length = size) :
    Sized size (chunk :: chunks) := by
  constructor
  · intro other hother
    by_cases hchunks : chunks = []
    · simp [hchunks] at hother
    · rw [List.dropLast_cons_of_ne_nil hchunks] at hother
      rcases List.mem_cons.mp hother with rfl | hother
      · exact hfull hchunks
      · exact h.full other hother
  · intro other hother
    rcases List.mem_cons.mp hother with rfl | hother
    · exact ⟨hne, hle⟩
    · exact h.bounded other hother

section Chunks

variable {size chunks : ℕ} {filled : Reader}

theorem chunksFrom_error {fault : DecodeFault}
    (h : fill size (reader.bytes.length + 1) reader = .error fault) :
    chunksFrom size (chunks + 1) reader = ([], some fault) := by
  rw [chunksFrom, h]

theorem chunksFrom_nil (h : fill size (reader.bytes.length + 1) reader = .ok filled)
    (hchunk : filled.ready.take size = []) :
    chunksFrom size (chunks + 1) reader = ([], none) := by
  rw [chunksFrom, h]
  simp only [hchunk]

theorem chunksFrom_cons (h : fill size (reader.bytes.length + 1) reader = .ok filled)
    (hchunk : filled.ready.take size ≠ []) :
    chunksFrom size (chunks + 1) reader =
      (filled.ready.take size ::
          (chunksFrom size chunks { filled with ready := filled.ready.drop size }).1,
        (chunksFrom size chunks { filled with ready := filled.ready.drop size }).2) := by
  rw [chunksFrom, h]
  dsimp only
  split
  · rename_i hnil
    exact (hchunk hnil).elim
  · rfl

theorem Exhausted.chunksFrom (h : reader.Exhausted) (hready : reader.ready = [])
    (hsize : 0 < size) : chunksFrom size chunks reader = ([], none) := by
  cases chunks with
  | zero => rfl
  | succ chunks =>
    have hend : reader.takeEnd = .ok ({ reader with decoder := none }.release true 0 []) := by
      rw [Reader.takeEnd, h.decoder]
      rfl
    have hfill : fill size (reader.bytes.length + 1) reader =
        .ok ({ reader with decoder := none }.release true 0 []) := by
      rw [fill, if_neg (by simpa [hready] using hsize.ne'), if_pos h.bytes, hend]
    exact chunksFrom_nil hfill (by simp [release, h.heldReturn, hready])

end Chunks

/-- The chunks still to come, behind a text that has been delivered. -/
theorem Tracks.chunksFrom (h : Tracks bytes delivered reader) {size chunks : ℕ} (hsize : 0 < size)
    (hchunks : bytes.length < chunks + delivered.length) :
    Sized size (Reader.chunksFrom size chunks reader).1 ∧
      encodeUtf8 (delivered ++ (Reader.chunksFrom size chunks reader).1.flatten) <+: bytes ∧
      ((Reader.chunksFrom size chunks reader).2 = none →
        bytes = encodeUtf8 (delivered ++ (Reader.chunksFrom size chunks reader).1.flatten)) ∧
      ((Reader.chunksFrom size chunks reader).2 ≠ none → ∀ text, encodeUtf8 text ≠ bytes) := by
  -- every chunk has a character, so the number of chunks cannot run out before the file does
  induction chunks generalizing reader delivered with
  | zero =>
    have hdelivered := h.length_delivered
    omega
  | succ chunks ih =>
    obtain ⟨hok, herror⟩ := h.fill size (Nat.lt_succ_self reader.bytes.length)
    cases hfill : Reader.fill size (reader.bytes.length + 1) reader with
    | error fault =>
      rw [chunksFrom_error hfill]
      refine ⟨sized_nil size, ?_, nofun, fun _ => herror fault hfill⟩
      simpa using h.encodeUtf8_delivered_prefix
    | ok filled =>
      obtain ⟨htracks, hstop⟩ := hok filled hfill
      by_cases hchunk : filled.ready.take size = []
      · have hready : filled.ready = [] :=
          (List.take_eq_nil_iff.mp hchunk).resolve_left hsize.ne'
        have hend : filled.Exhausted := by
          refine hstop.resolve_left fun henough => ?_
          rw [hready, List.length_nil] at henough
          omega
        have hbytes := htracks.eq_of_exhausted hend
        rw [hready] at hbytes
        rw [chunksFrom_nil hfill hchunk]
        exact ⟨sized_nil size, by simpa using htracks.encodeUtf8_delivered_prefix,
          fun _ => hbytes, fun hne => (hne rfl).elim⟩
      · have hpos : 0 < (filled.ready.take size).length := List.length_pos_iff.mpr hchunk
        obtain ⟨hsized, hprefix, hnone, hsome⟩ := ih (htracks.deliver size)
          (by rw [List.length_append]; omega)
        rw [List.append_assoc, ← List.flatten_cons] at hprefix hnone
        rw [chunksFrom_cons hfill hchunk]
        refine ⟨hsized.cons hchunk (List.length_take_le _ _) fun hmore => ?_, hprefix, hnone, hsome⟩
        -- a chunk that is not full was the rest of the file
        by_contra hshort
        rw [List.length_take] at hshort
        have hend : filled.Exhausted := hstop.resolve_left fun henough => hshort (by omega)
        apply hmore
        have hrest : ({ filled with ready := filled.ready.drop size } : Reader).Exhausted :=
          ⟨hend.bytes, hend.decoder, hend.heldReturn⟩
        rw [hrest.chunksFrom (List.drop_eq_nil_of_le (by omega)) hsize]

end Reader

section Reading

variable {tree : FileTree} {path : Text} {bytes : List UInt8}

theorem readChunks_of_mem (h : '\x00' ∈ path) (size : ChunkSize) (encoding : Encoding) :
    readChunks tree path size encoding = ([], some .nullCharacter) := by
  simp [readChunks, h]

theorem readChunks_of_error (h : '\x00' ∉ path) {fault : PathFault}
    (hread : tree.read path = .error fault) (size : ChunkSize) (encoding : Encoding) :
    readChunks tree path size encoding = ([], some (.path fault path)) := by
  simp [readChunks, h, hread]

theorem readChunks_of_ok (h : '\x00' ∉ path) (hread : tree.read path = .ok bytes)
    (size : ChunkSize) (encoding : Encoding) :
    readChunks tree path size encoding =
      ((chunksOfBytes size encoding bytes).1,
        (chunksOfBytes size encoding bytes).2.map ReadFault.encoding) := by
  simp [readChunks, h, hread]

theorem extractFile_of_none {settings : Settings} {chunks : List Text}
    (h : readChunks tree path .standard .utf8 = (chunks, none)) :
    (extractFile settings tree path).2 = .ok (extractDocument settings chunks.flatten) := by
  have hblocks := (Stream.tracks_feedAll settings chunks).finish_blocks
  rw [extractFile, h]
  dsimp only
  rw [Stream.document, hblocks]
  rfl

theorem extractFile_of_some {settings : Settings} {chunks : List Text} {fault : ReadFault}
    (h : readChunks tree path .standard .utf8 = (chunks, some fault)) :
    (extractFile settings tree path).2 = .error fault := by
  rw [extractFile, h]

/-- A file with the bytes of a text is read without a fault. -/
theorem readChunks_of_encodeUtf8 (h : '\x00' ∉ path) {text : Text}
    (hread : tree.read path = .ok (encodeUtf8 text)) {size : ℕ} (hsize : 1 ≤ size) :
    ∃ chunks, readChunks tree path (.chars size) .utf8 = (chunks, none) ∧
      chunks.flatten = text ∧ Reader.Sized size chunks := by
  obtain ⟨hsized, -, hnone, hsome⟩ := (Reader.tracks_initial (encodeUtf8 text)).chunksFrom hsize
    (Nat.lt_succ_self (encodeUtf8 text).length)
  have hfault : (chunksOfBytes (.chars size) .utf8 (encodeUtf8 text)).2 = none := by
    by_contra hfault
    exact hsome hfault text rfl
  refine ⟨_, ?_, (encodeUtf8_injective (hnone hfault)).symm, hsized⟩
  rw [readChunks_of_ok h hread, hfault]
  rfl

/-- A file with other bytes is read up to a fault. What was delivered before stands at its start. -/
theorem readChunks_of_forall_ne (h : '\x00' ∉ path) (hread : tree.read path = .ok bytes)
    (hbytes : ∀ text, encodeUtf8 text ≠ bytes) {size : ℕ} (hsize : 1 ≤ size) :
    ∃ chunks fault, readChunks tree path (.chars size) .utf8 = (chunks, some (.encoding fault)) ∧
      encodeUtf8 chunks.flatten <+: bytes := by
  obtain ⟨-, hprefix, hnone, -⟩ := (Reader.tracks_initial bytes).chunksFrom hsize
    (Nat.lt_succ_self bytes.length)
  cases hfault : (chunksOfBytes (.chars size) .utf8 bytes).2 with
  | none => exact (hbytes _ (hnone hfault).symm).elim
  | some fault =>
    refine ⟨_, fault, ?_, hprefix⟩
    rw [readChunks_of_ok h hread, hfault]
    rfl

end Reading

/-- What is read from a file whose path has no null character. The bytes of a text give the
document of that text, and chunks that divide the text evenly. A path that leads to no file, or to
bytes of no text, is reported as a failure of the source; all that was delivered by then is the
beginning of the longest text that the file begins with. A path with a null character breaks off in
another way. -/
theorem files_read_as_text (settings : Settings) (tree : FileTree) (path : Text) :
    let utf8 := fun text : Text => text.flatMap String.utf8EncodeChar
    ('\x00' ∉ path →
      (∀ text, tree.read path = .ok (utf8 text) →
        (extractFile settings tree path).2 = .ok (extractDocument settings text) ∧
          ∀ size ≥ 1, ∃ chunks, readChunks tree path (.chars size) .utf8 = (chunks, none) ∧
            chunks.flatten = text ∧ (∀ chunk ∈ chunks.dropLast, chunk.length = size) ∧
            ∀ chunk ∈ chunks, chunk ≠ [] ∧ chunk.length ≤ size) ∧
      (∀ fault, tree.read path = .error fault →
        (extractFile settings tree path).2 = .error (.path fault path) ∧
          (ReadFault.path fault path).failure? path =
            some (.source (Path.ofText path) (some (fault.message path)) none) ∧
          ∀ size ≥ 1,
            readChunks tree path (.chars size) .utf8 = ([], some (.path fault path))) ∧
      (∀ bytes, tree.read path = .ok bytes → (∀ text, utf8 text ≠ bytes) →
        (∃ fault, (extractFile settings tree path).2 = .error (.encoding fault) ∧
          (ReadFault.encoding fault).failure? path =
            some (.source (Path.ofText path) (some fault.message) none)) ∧
          ∃ valid, utf8 valid <+: bytes ∧
            (∀ other, utf8 other <+: bytes → (utf8 other).length ≤ (utf8 valid).length) ∧
            ∀ size ≥ 1, ∃ chunks fault,
              readChunks tree path (.chars size) .utf8 = (chunks, some (.encoding fault)) ∧
                chunks.flatten <+: valid)) ∧
    ('\x00' ∈ path → (extractFile settings tree path).2 = .error .nullCharacter ∧
      ReadFault.nullCharacter.failure? path = none) := by
  intro utf8
  have hutf8 : utf8 = encodeUtf8 := (funext encodeUtf8_eq_flatMap).symm
  rw [hutf8]
  refine ⟨fun hpath => ⟨?_, ?_, ?_⟩, fun hpath => ⟨?_, rfl⟩⟩
  · intro text hread
    constructor
    · obtain ⟨chunks, hchunks, rfl, -⟩ := readChunks_of_encodeUtf8 hpath hread
        (show 1 ≤ 65536 by decide)
      exact extractFile_of_none hchunks
    · intro size hsize
      obtain ⟨chunks, hchunks, htext, hsized⟩ := readChunks_of_encodeUtf8 hpath hread hsize
      exact ⟨chunks, hchunks, htext, hsized.full, hsized.bounded⟩
  · intro fault hread
    exact ⟨extractFile_of_some (readChunks_of_error hpath hread _ _), rfl,
      fun size _ => readChunks_of_error hpath hread _ _⟩
  · intro bytes hread hbytes
    constructor
    · obtain ⟨chunks, fault, hchunks, -⟩ := readChunks_of_forall_ne hpath hread hbytes
        (show 1 ≤ 65536 by decide)
      exact ⟨fault, extractFile_of_some hchunks, rfl⟩
    · obtain ⟨valid, hvalid, hlongest⟩ := exists_longest_text bytes
      refine ⟨valid, hvalid, fun other hother => ?_, fun size hsize => ?_⟩
      · obtain ⟨rest, rfl⟩ := hlongest other hother
        rw [encodeUtf8_append, List.length_append]
        exact Nat.le_add_right _ _
      · obtain ⟨chunks, fault, hchunks, hprefix⟩ :=
          readChunks_of_forall_ne hpath hread hbytes hsize
        exact ⟨chunks, fault, hchunks, hlongest _ hprefix⟩
  · exact extractFile_of_some (readChunks_of_mem hpath _ _)

/-- A file with a text, a missing file, a file that ends within a character, and a path that cannot
be one. -/
theorem files_read_as_text_from_tree :
    let tree : FileTree :=
      ⟨[(⟨.current, ["a".toList]⟩, .file [0x2F, 0x2F, 0x20, 0xC3, 0xA9]),
        (⟨.current, ["b".toList]⟩, .file [0x61, 0xC3])]⟩
    (tree.read "a".toList = .ok ("// é".toList.flatMap String.utf8EncodeChar) ∧
        (extractFile {} tree "a".toList).2 = .ok (extractDocument {} "// é".toList)) ∧
      (tree.read "c".toList = .error .notFound ∧
        (extractFile {} tree "c".toList).2 = .error (.path .notFound "c".toList)) ∧
      (tree.read "b".toList = .ok [0x61, 0xC3] ∧
        (∀ text : Text, text.flatMap String.utf8EncodeChar ≠ [0x61, 0xC3]) ∧
        ∃ fault, (extractFile {} tree "b".toList).2 = .error (.encoding fault)) ∧
      (extractFile {} tree "a\x00b".toList).2 = .error .nullCharacter := by
  intro tree
  have htext : tree.read "a".toList = .ok ("// é".toList.flatMap String.utf8EncodeChar) := by
    decide
  have hmissing : tree.read "c".toList = .error .notFound := by decide
  have hbytes : tree.read "b".toList = .ok [0x61, 0xC3] := by decide
  have hinvalid : ∀ text : Text, text.flatMap String.utf8EncodeChar ≠ [0x61, 0xC3] := by
    intro text heq
    rw [← encodeUtf8_eq_flatMap] at heq
    have hrun := Decoder.run?_eq_some_none_iff.mpr heq.symm
    have hheld : (Decoder.run? none [0x61, 0xC3]).map (·.2.isSome) = some true := by decide
    rw [hrun] at hheld
    cases hheld
  refine ⟨⟨htext, ?_⟩, ⟨hmissing, ?_⟩, ⟨hbytes, hinvalid, ?_⟩, ?_⟩
  · exact (((files_read_as_text {} tree "a".toList).1 (by decide)).1 _ htext).1
  · exact (((files_read_as_text {} tree "c".toList).1 (by decide)).2.1 _ hmissing).1
  · obtain ⟨fault, hfault, -⟩ :=
      (((files_read_as_text {} tree "b".toList).1 (by decide)).2.2 _ hbytes hinvalid).1
    exact ⟨fault, hfault⟩
  · exact ((files_read_as_text {} tree "a\x00b".toList).2 (by decide)).1

end SlashDoc
