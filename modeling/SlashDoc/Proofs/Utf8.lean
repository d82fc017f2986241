import Mathlib.Algebra.Group.Nat.Defs
import Mathlib.Data.List.Induction
import SlashDoc.Files.Reader

/-!
# Decoding what was encoded

A decoder takes bytes one at a time, refuses some of them early and remembers the others until a
character is complete. Taken together this is the inverse of encoding: bytes decode to a text
without a rest exactly if they are the bytes of that text. So there is a longest text that given
bytes begin with, and whatever has been decoded from a part of them is a beginning of it.
-/
namespace SlashDoc

def following (n : ℕ) : (count : ℕ) → List UInt8
  | 0 => []
  | count + 1 => UInt8.ofNat (0x80 + n / 64 ^ count % 64) :: following n count

theorem encodeUtf8_append (first second : Text) :
    encodeUtf8 (first ++ second) = encodeUtf8 first ++ encodeUtf8 second :=
  List.flatMap_append

section Encoding

variable {n : ℕ}

theorem toNat_ofNat_of_valid (h : n.isValidChar) : (Char.ofNat n).toNat = n := by
  rw [Char.ofNat, dif_pos h]
  rfl

theorem utf8Bytes_one (h : n < 0x80) : utf8Bytes (Char.ofNat n) = [UInt8.ofNat n] := by
  have hn : (Char.ofNat n).toNat = n := toNat_ofNat_of_valid (.inl (by omega))
  simp [utf8Bytes, hn, h]

theorem utf8Bytes_two (hlow : 0x80 ≤ n) (hhigh : n < 0x800) :
    utf8Bytes (Char.ofNat n) = UInt8.ofNat (0xC0 + n / 64) :: following n 1 := by
  have hn : (Char.ofNat n).toNat = n := toNat_ofNat_of_valid (.inl (by omega))
  have hlong : ¬n < 0x80 := by omega
  simp [utf8Bytes, hn, hlong, hhigh, following]

theorem utf8Bytes_three (hlow : 0x800 ≤ n) (hhigh : n < 0x10000) (hvalid : n.isValidChar) :
    utf8Bytes (Char.ofNat n) = UInt8.ofNat (0xE0 + n / 4096) :: following n 2 := by
  have hn : (Char.ofNat n).toNat = n := toNat_ofNat_of_valid hvalid
  have hlong : ¬n < 0x80 ∧ ¬n < 0x800 := by omega
  simp [utf8Bytes, hn, hlong, hhigh, following]

theorem utf8Bytes_four (hlow : 0x10000 ≤ n) (hvalid : n.isValidChar) :
    utf8Bytes (Char.ofNat n) = UInt8.ofNat (0xF0 + n / 262144) :: following n 3 := by
  have hn : (Char.ofNat n).toNat = n := toNat_ofNat_of_valid hvalid
  have hlong : ¬n < 0x80 ∧ ¬n < 0x800 ∧ ¬n < 0x10000 := by omega
  simp [utf8Bytes, hn, hlong, following]

theorem utf8Bytes_eq_utf8EncodeChar (c : Char) : utf8Bytes c = String.utf8EncodeChar c := by
  have hvalid : c.toNat.isValidChar := c.valid
  have hlimit : c.toNat < 0x110000 := by
    rcases hvalid with h | h <;> omega
  have hval : c.val.toNat = c.toNat := rfl
  unfold utf8Bytes String.utf8EncodeChar
  simp only [hval]
  generalize c.toNat = n at hlimit ⊢
  by_cases h1 : n < 0x80
  · simp [h1, show n ≤ 0x7f by omega]
  · by_cases h2 : n < 0x800
    · simp [h1, h2, show ¬n ≤ 0x7f by omega, show n ≤ 0x7ff by omega, Nat.add_comm,
        show n / 64 % 32 = n / 64 by omega]
    · by_cases h3 : n < 0x10000
      · simp [h1, h2, h3, show ¬n ≤ 0x7f by omega, show ¬n ≤ 0x7ff by omega,
          show n ≤ 0xffff by omega, Nat.add_comm, show n / 4096 % 16 = n / 4096 by omega]
      · simp [h1, h2, h3, show ¬n ≤ 0x7f by omega, show ¬n ≤ 0x7ff by omega,
          show ¬n ≤ 0xffff by omega, Nat.add_comm, show n / 262144 % 8 = n / 262144 by omega]

end Encoding

namespace Sequence

/-- A code point that an unfinished character can still become. -/
structure Fits (sequence : Sequence) (n : ℕ) : Prop where
  code : n / 64 ^ sequence.missing = sequence.code
  low : sequence.low ≤ 0x80 + n / 64 ^ (sequence.missing - 1) % 64
  high : 0x80 + n / 64 ^ (sequence.missing - 1) % 64 ≤ sequence.high

/-- An unfinished character: whatever it can become starts with the bytes that have been seen. -/
structure Sound (sequence : Sequence) : Prop where
  missing : 0 < sequence.missing
  low : 0x80 ≤ sequence.low
  high : sequence.high ≤ 0xBF
  written : ∀ n, sequence.Fits n →
    utf8Bytes (Char.ofNat n) = sequence.seen.reverse ++ following n sequence.missing

variable {byte : UInt8} {code low high : ℕ}

theorem ofNat_of_toNat_eq {m : ℕ} (h : byte.toNat = m) : UInt8.ofNat m = byte := by
  rw [← h, UInt8.ofNat_toNat]

theorem open?_two (h : byte.toNat = 0xC0 + code) (hmin : 2 ≤ code) (hmax : code < 32) :
    open? byte = some ⟨[byte], code, 1, 0x80, 0xBF⟩ := by
  have hlead : 0xC2 ≤ 0xC0 + code ∧ 0xC0 + code ≤ 0xDF := by omega
  simp [open?, h, hlead]

theorem open?_three (h : byte.toNat = 0xE0 + code) (hmax : code < 16) :
    open? byte = some ⟨[byte], code, 2, if code = 0 then 0xA0 else 0x80,
      if code = 0xD then 0x9F else 0xBF⟩ := by
  have htwo : ¬(0xC2 ≤ 0xE0 + code ∧ 0xE0 + code ≤ 0xDF) := by omega
  by_cases hzero : code = 0
  · simp [open?, h, hzero]
  · by_cases hd : code = 0xD
    · simp [open?, h, hd]
    · have hrest : 0xE1 ≤ 0xE0 + code ∧ 0xE0 + code ≤ 0xEF := by omega
      have hne : 0xE0 + code ≠ 0xED := by omega
      simp only [open?, h, Bool.and_eq_true, decide_eq_true_eq, htwo, hrest, hne, hzero, hd,
        Nat.add_eq_left, Nat.add_sub_cancel_left, if_true, if_false, and_self]

theorem open?_four (h : byte.toNat = 0xF0 + code) (hmax : code ≤ 4) :
    open? byte = some ⟨[byte], code, 3, if code = 0 then 0x90 else 0x80,
      if code = 4 then 0x8F else 0xBF⟩ := by
  have hcode : code = 0 ∨ code = 1 ∨ code = 2 ∨ code = 3 ∨ code = 4 := by omega
  rcases hcode with rfl | rfl | rfl | rfl | rfl
  all_goals simp [open?, h]

theorem open?_eq_none (h : byte.toNat < 0xC2 ∨ 0xF4 < byte.toNat) : open? byte = none := by
  simp only [open?, Bool.and_eq_true, decide_eq_true_eq]
  split_ifs
  all_goals first | rfl | omega

/-- The unfinished characters that a first byte can open. -/
theorem open?_cases {sequence : Sequence} (h : open? byte = some sequence) :
    (∃ code, byte.toNat = 0xC0 + code ∧ 2 ≤ code ∧ code < 32 ∧
        sequence = ⟨[byte], code, 1, 0x80, 0xBF⟩) ∨
      (∃ code, byte.toNat = 0xE0 + code ∧ code < 16 ∧
        sequence = ⟨[byte], code, 2, if code = 0 then 0xA0 else 0x80,
          if code = 0xD then 0x9F else 0xBF⟩) ∨
      ∃ code, byte.toNat = 0xF0 + code ∧ code ≤ 4 ∧
        sequence = ⟨[byte], code, 3, if code = 0 then 0x90 else 0x80,
          if code = 4 then 0x8F else 0xBF⟩ := by
  by_cases hnone : byte.toNat < 0xC2 ∨ 0xF4 < byte.toNat
  · rw [open?_eq_none hnone] at h
    cases h
  · by_cases htwo : byte.toNat < 0xE0
    · have hbyte : byte.toNat = 0xC0 + (byte.toNat - 0xC0) := by omega
      rw [open?_two hbyte (by omega) (by omega)] at h
      exact .inl ⟨_, hbyte, by omega, by omega, (Option.some.inj h).symm⟩
    · by_cases hthree : byte.toNat < 0xF0
      · have hbyte : byte.toNat = 0xE0 + (byte.toNat - 0xE0) := by omega
        rw [open?_three hbyte (by omega)] at h
        exact .inr (.inl ⟨_, hbyte, by omega, (Option.some.inj h).symm⟩)
      · have hbyte : byte.toNat = 0xF0 + (byte.toNat - 0xF0) := by omega
        rw [open?_four hbyte (by omega)] at h
        exact .inr (.inr ⟨_, hbyte, by omega, (Option.some.inj h).symm⟩)

theorem sound_of_open? {sequence : Sequence} (h : open? byte = some sequence) :
    sequence.Sound := by
  obtain ⟨code, hbyte, hmin, hmax, rfl⟩ | ⟨code, hbyte, hmax, rfl⟩ | ⟨code, hbyte, hmax, rfl⟩ :=
    open?_cases h
  · refine ⟨Nat.one_pos, Nat.le_refl _, Nat.le_refl _, ?_⟩
    rintro n ⟨hcode, -, -⟩
    have hn : n / 64 = code := by simpa using hcode
    rw [utf8Bytes_two (by omega) (by omega), hn, ofNat_of_toNat_eq hbyte]
    rfl
  · refine ⟨Nat.two_pos, by dsimp only; split <;> omega, by dsimp only; split <;> omega, ?_⟩
    rintro n ⟨hcode, hlow, hhigh⟩
    have hn : n / 4096 = code := by simpa using hcode
    have hnext : (if code = 0 then 0xA0 else 0x80) ≤ 0x80 + n / 64 % 64 ∧
        0x80 + n / 64 % 64 ≤ (if code = 0xD then 0x9F else 0xBF) := by
      simpa using And.intro hlow hhigh
    -- the bounds of the second byte keep the code point out of the range of the surrogates
    have hrange : 0x800 ≤ n ∧ n.isValidChar := by
      refine ⟨by split at hnext <;> omega, ?_⟩
      by_cases hsurrogate : n < 0xD800
      · exact .inl hsurrogate
      · exact .inr (by split at hnext <;> split at hnext <;> omega)
    rw [utf8Bytes_three hrange.1 (by omega) hrange.2, hn, ofNat_of_toNat_eq hbyte]
    rfl
  · refine ⟨Nat.succ_pos 2, by dsimp only; split <;> omega, by dsimp only; split <;> omega, ?_⟩
    rintro n ⟨hcode, hlow, hhigh⟩
    have hn : n / 262144 = code := by simpa using hcode
    have hnext : (if code = 0 then 0x90 else 0x80) ≤ 0x80 + n / 4096 % 64 ∧
        0x80 + n / 4096 % 64 ≤ (if code = 4 then 0x8F else 0xBF) := by
      simpa using And.intro hlow hhigh
    have hrange : 0x10000 ≤ n ∧ n < 0x110000 := by
      split at hnext <;> split at hnext <;> omega
    rw [utf8Bytes_four hrange.1 (.inr (by omega)), hn, ofNat_of_toNat_eq hbyte]
    rfl

theorem div_pow_succ (n count : ℕ) : n / 64 ^ (count + 1) = n / 64 ^ count / 64 := by
  rw [Nat.pow_succ, Nat.div_div_eq_div_mul]

/-- A byte that continues a character narrows down what the character can become. -/
theorem Sound.written_of_continue? {sequence longer : Sequence} (h : sequence.Sound)
    (hlonger : sequence.continue? byte = some longer) {n : ℕ}
    (hn : n / 64 ^ longer.missing = longer.code) :
    utf8Bytes (Char.ofNat n) = longer.seen.reverse ++ following n longer.missing := by
  obtain ⟨seen, code, missing, low, high⟩ := sequence
  obtain ⟨hmissing, hlow, hhigh, hwritten⟩ := h
  dsimp only at hmissing hlow hhigh hwritten
  obtain ⟨count, rfl⟩ : ∃ count, missing = count + 1 := ⟨missing - 1, by omega⟩
  unfold continue? at hlonger
  split at hlonger
  · rename_i hbounds
    obtain rfl := Option.some.inj hlonger
    simp only [Nat.add_sub_cancel] at hn ⊢
    have hbyte : low ≤ byte.toNat ∧ byte.toNat ≤ high := by simpa using hbounds
    have hnext : byte.toNat = 0x80 + n / 64 ^ count % 64 := by omega
    have hfits : Fits ⟨seen, code, count + 1, low, high⟩ n := by
      refine ⟨?_, hnext ▸ hbyte.1, hnext ▸ hbyte.2⟩
      dsimp only
      rw [div_pow_succ]
      omega
    rw [hwritten n hfits, following, ofNat_of_toNat_eq hnext]
    simp
  · cases hlonger

theorem Sound.continue? {sequence longer : Sequence} (h : sequence.Sound)
    (hlonger : sequence.continue? byte = some longer) (hmissing : longer.missing ≠ 0) :
    longer.Sound := by
  have hwritten : ∀ n, longer.Fits n →
      utf8Bytes (Char.ofNat n) = longer.seen.reverse ++ following n longer.missing :=
    fun n hfits => h.written_of_continue? hlonger hfits.code
  unfold Sequence.continue? at hlonger
  split at hlonger
  · obtain rfl := Option.some.inj hlonger
    exact ⟨Nat.pos_of_ne_zero hmissing, Nat.le_refl _, Nat.le_refl _, hwritten⟩
  · cases hlonger

/-- The byte that a code point asks for next does continue its character. -/
theorem Fits.continue?_eq {seen : List UInt8} {count n : ℕ}
    (h : Fits ⟨seen, code, count + 1, low, high⟩ n)
    (hbyte : byte.toNat = 0x80 + n / 64 ^ count % 64) :
    continue? ⟨seen, code, count + 1, low, high⟩ byte =
      some ⟨byte :: seen, n / 64 ^ count, count, 0x80, 0xBF⟩ := by
  obtain ⟨hcode, hlow, hhigh⟩ := h
  simp only [Nat.add_sub_cancel, ← hbyte] at hcode hlow hhigh
  have hnext : code * 64 + (byte.toNat - 0x80) = n / 64 ^ count := by
    rw [div_pow_succ] at hcode
    omega
  simp only [continue?, hlow, hhigh, decide_true, Bool.and_self, if_true, hnext,
    Nat.add_sub_cancel]

end Sequence

theorem following_toNat (n count : ℕ) :
    (UInt8.ofNat (0x80 + n / 64 ^ count % 64)).toNat = 0x80 + n / 64 ^ count % 64 := by
  rw [UInt8.toNat_ofNat']
  omega

namespace Decoder

def step? : Decoder → UInt8 → Option (Text × Decoder)
  | none, byte =>
    if byte.toNat < 0x80 then some ([Char.ofNat byte.toNat], none)
    else (Sequence.open? byte).map fun sequence => ([], some sequence)
  | some sequence, byte =>
    (sequence.continue? byte).map fun longer =>
      if longer.missing = 0 then ([Char.ofNat longer.code], none) else ([], some longer)

section Step

variable {byte : UInt8} {sequence longer : Sequence}

theorem step?_basic (h : byte.toNat < 0x80) :
    step? none byte = some ([Char.ofNat byte.toNat], none) := by
  simp [step?, h]

theorem step?_open (h : Sequence.open? byte = some sequence) :
    step? none byte = some ([], some sequence) := by
  have hbyte : ¬byte.toNat < 0x80 := by
    intro hbasic
    rw [Sequence.open?_eq_none (.inl (by omega))] at h
    cases h
  simp [step?, hbyte, h]

theorem step?_last (h : sequence.continue? byte = some longer) (hmissing : longer.missing = 0) :
    step? (some sequence) byte = some ([Char.ofNat longer.code], none) := by
  simp [step?, h, hmissing]

theorem step?_more (h : sequence.continue? byte = some longer) (hmissing : longer.missing ≠ 0) :
    step? (some sequence) byte = some ([], some longer) := by
  simp [step?, h, hmissing]

end Step

def behind (text : Text) (result : Option (Text × Decoder)) : Option (Text × Decoder) :=
  result.map fun (more, last) => (text ++ more, last)

@[simp] theorem behind_some (text more : Text) (last : Decoder) :
    behind text (some (more, last)) = some (text ++ more, last) := rfl

@[simp] theorem behind_nil (result : Option (Text × Decoder)) : behind [] result = result := by
  cases result <;> rfl

theorem behind_behind (first second : Text) (result : Option (Text × Decoder)) :
    behind first (behind second result) = behind (first ++ second) result := by
  rcases result with _ | ⟨more, last⟩
  · rfl
  · simp

/-- What several bytes do. Where in the file they stand does not matter. -/
def run? : Decoder → List UInt8 → Option (Text × Decoder)
  | decoder, [] => some ([], decoder)
  | decoder, byte :: rest =>
    (decoder.step? byte).bind fun (text, next) => behind text (run? next rest)

theorem run?_cons {decoder next : Decoder} {byte : UInt8} {text : Text}
    (h : decoder.step? byte = some (text, next)) (rest : List UInt8) :
    run? decoder (byte :: rest) = behind text (run? next rest) := by
  rw [run?, h]
  rfl

theorem run?_append (decoder : Decoder) (first second : List UInt8) :
    run? decoder (first ++ second) =
      (run? decoder first).bind fun (text, next) => behind text (run? next second) := by
  induction first generalizing decoder with
  | nil => simp [run?]
  | cons byte first ih =>
    cases hstep : decoder.step? byte with
    | none => simp [run?, hstep]
    | some result =>
      obtain ⟨text, next⟩ := result
      rw [List.cons_append, run?_cons hstep, run?_cons hstep, ih]
      cases run? next first with
      | none => rfl
      | some result => exact behind_behind _ _ _

theorem toOption_return (c : Char) (result : Except DecodeFault (Text × Decoder)) :
    (do
      let (text, decoder) ← result
      return (c :: text, decoder) : Except DecodeFault (Text × Decoder)).toOption =
      behind [c] result.toOption := by
  cases result <;> rfl

theorem toOption_utf8 (position : ℕ) (decoder : Decoder) (bytes : List UInt8) :
    (utf8 position decoder bytes).toOption = run? decoder bytes := by
  induction bytes generalizing position decoder with
  | nil => cases decoder <;> rfl
  | cons byte rest ih =>
    cases decoder with
    | none =>
      by_cases hbyte : byte.toNat < 0x80
      · rw [run?_cons (step?_basic hbyte), ← ih (position + 1), ← toOption_return, utf8,
          if_pos hbyte]
      · cases hopen : Sequence.open? byte with
        | none => simp [utf8, run?, step?, hbyte, hopen, Except.toOption]
        | some sequence =>
          rw [run?_cons (step?_open hopen), behind_nil, ← ih (position + 1), utf8, if_neg hbyte,
            hopen]
    | some sequence =>
      cases hlonger : sequence.continue? byte with
      | none => simp [utf8, run?, step?, hlonger, Except.toOption]
      | some longer =>
        by_cases hmissing : longer.missing = 0
        · rw [run?_cons (step?_last hlonger hmissing), ← ih (position + 1), ← toOption_return,
            utf8, hlonger]
          simp only [hmissing, if_true]
        · rw [run?_cons (step?_more hlonger hmissing), behind_nil, ← ih (position + 1), utf8,
            hlonger]
          simp only [hmissing, if_false]

def Sound (decoder : Decoder) : Prop :=
  ∀ sequence ∈ decoder, sequence.Sound

theorem sound_none : Sound none := fun sequence h => (Option.not_mem_none sequence h).elim

theorem sound_some {sequence : Sequence} (h : sequence.Sound) : Sound (some sequence) :=
  fun _ heq => Option.some.inj heq ▸ h

/-- The bytes that a step takes in are either those of a character or still held. -/
theorem Sound.step? {decoder next : Decoder} {byte : UInt8} {text : Text} (h : decoder.Sound)
    (hstep : decoder.step? byte = some (text, next)) :
    next.Sound ∧ decoder.held ++ [byte] = encodeUtf8 text ++ next.held := by
  cases decoder with
  | none =>
    by_cases hbyte : byte.toNat < 0x80
    · obtain ⟨rfl, rfl⟩ : [Char.ofNat byte.toNat] = text ∧ none = next := by
        simpa [Decoder.step?, hbyte] using hstep
      exact ⟨sound_none, by simp [held, encodeUtf8, utf8Bytes_one hbyte]⟩
    · obtain ⟨sequence, hopen, rfl, rfl⟩ : ∃ sequence, Sequence.open? byte = some sequence ∧
          [] = text ∧ some sequence = next := by
        simpa [Decoder.step?, hbyte] using hstep
      refine ⟨sound_some (Sequence.sound_of_open? hopen), ?_⟩
      obtain ⟨code, -, -, -, rfl⟩ | ⟨code, -, -, rfl⟩ | ⟨code, -, -, rfl⟩ :=
        Sequence.open?_cases hopen
      all_goals rfl
  | some sequence =>
    have hsequence : sequence.Sound := h sequence rfl
    obtain ⟨longer, hlonger, hresult⟩ := Option.map_eq_some_iff.mp hstep
    have hseen : longer.seen = byte :: sequence.seen := by
      unfold Sequence.continue? at hlonger
      split at hlonger
      · rw [← Option.some.inj hlonger]
      · cases hlonger
    by_cases hmissing : longer.missing = 0
    · obtain ⟨rfl, rfl⟩ : [Char.ofNat longer.code] = text ∧ none = next := by
        simpa [hmissing] using hresult
      have hwritten := hsequence.written_of_continue? hlonger (n := longer.code)
        (by simp [hmissing])
      rw [hmissing] at hwritten
      refine ⟨sound_none, ?_⟩
      simp [held, encodeUtf8, hwritten, hseen, following]
    · obtain ⟨rfl, rfl⟩ : [] = text ∧ some longer = next := by
        simpa [hmissing] using hresult
      refine ⟨sound_some (hsequence.continue? hlonger hmissing), ?_⟩
      simp [held, encodeUtf8, hseen]

/-- Nothing is lost in a run, and nothing but whole characters is given out. -/
theorem Sound.run? {decoder last : Decoder} {bytes : List UInt8} {text : Text}
    (h : decoder.Sound) (hrun : decoder.run? bytes = some (text, last)) :
    last.Sound ∧ decoder.held ++ bytes = encodeUtf8 text ++ last.held := by
  induction bytes generalizing decoder text with
  | nil =>
    obtain ⟨rfl, rfl⟩ : [] = text ∧ decoder = last := by simpa [Decoder.run?] using hrun
    exact ⟨h, by simp [encodeUtf8]⟩
  | cons byte rest ih =>
    cases hstep : decoder.step? byte with
    | none => simp [Decoder.run?, hstep] at hrun
    | some result =>
      obtain ⟨front, next⟩ := result
      rw [run?_cons hstep] at hrun
      obtain ⟨⟨more, last⟩, hrest, heq⟩ := Option.map_eq_some_iff.mp hrun
      obtain ⟨rfl, rfl⟩ := Prod.mk.inj heq
      obtain ⟨hnext, hbyte⟩ := h.step? hstep
      obtain ⟨hlast, hbytes⟩ := ih hnext hrest
      refine ⟨hlast, ?_⟩
      calc decoder.held ++ byte :: rest
          = decoder.held ++ [byte] ++ rest := by simp
        _ = encodeUtf8 front ++ (next.held ++ rest) := by rw [hbyte, List.append_assoc]
        _ = encodeUtf8 (front ++ more) ++ last.held := by
          rw [hbytes, encodeUtf8_append, List.append_assoc]

/-- A code point is found again from its following bytes. -/
theorem run?_following {seen : List UInt8} {code low high count n : ℕ}
    (h : Sequence.Fits ⟨seen, code, count + 1, low, high⟩ n) (rest : List UInt8) :
    run? (some ⟨seen, code, count + 1, low, high⟩) (following n (count + 1) ++ rest) =
      behind [Char.ofNat n] (run? none rest) := by
  induction count generalizing seen code low high with
  | zero =>
    have hlonger := h.continue?_eq (following_toNat n 0)
    rw [following, List.cons_append, run?_cons (step?_last hlonger rfl), Nat.pow_zero, Nat.div_one]
    rfl
  | succ count ih =>
    have hlonger := h.continue?_eq (following_toNat n (count + 1))
    have hfits : ∀ seen, Sequence.Fits ⟨seen, n / 64 ^ (count + 1), count + 1, 0x80, 0xBF⟩ n :=
      fun seen => ⟨rfl, Nat.le_add_right _ _, by dsimp only; omega⟩
    rw [following, List.cons_append, run?_cons (step?_more hlonger (Nat.succ_ne_zero count)),
      behind_nil, ih (hfits _)]

theorem run?_opened {byte : UInt8} {code low high count n : ℕ}
    (hopen : Sequence.open? byte = some ⟨[byte], code, count + 1, low, high⟩)
    (h : Sequence.Fits ⟨[byte], code, count + 1, low, high⟩ n) (rest : List UInt8) :
    run? none (byte :: following n (count + 1) ++ rest) =
      behind [Char.ofNat n] (run? none rest) := by
  rw [List.cons_append, run?_cons (step?_open hopen), behind_nil, run?_following h]

theorem run?_utf8Bytes (c : Char) (rest : List UInt8) :
    run? none (utf8Bytes c ++ rest) = behind [c] (run? none rest) := by
  have hvalid : c.toNat.isValidChar := c.valid
  obtain ⟨n, hn, rfl⟩ : ∃ n, n.isValidChar ∧ Char.ofNat n = c := ⟨_, hvalid, Char.ofNat_toNat c⟩
  have hlimit : n < 0x110000 := by
    rcases hn with h | h <;> omega
  have htoNat : ∀ m < 256, (UInt8.ofNat m).toNat = m := fun m hm => by
    rw [UInt8.toNat_ofNat']
    omega
  by_cases h1 : n < 0x80
  · have hbyte := htoNat n (by omega)
    have hstep := step?_basic (hbyte.symm ▸ h1)
    rw [hbyte] at hstep
    rw [utf8Bytes_one h1, List.singleton_append, run?_cons hstep]
  · by_cases h2 : n < 0x800
    · have hopen := Sequence.open?_two (htoNat (0xC0 + n / 64) (by omega)) (by omega) (by omega)
      rw [utf8Bytes_two (by omega) h2]
      exact run?_opened hopen ⟨by simp, by simp, by simp; omega⟩ rest
    · by_cases h3 : n < 0x10000
      · have hopen := Sequence.open?_three (htoNat (0xE0 + n / 4096) (by omega)) (by omega)
        rw [utf8Bytes_three (by omega) h3 hn]
        refine run?_opened hopen ⟨by simp, ?_, ?_⟩ rest
        · simp only [Nat.add_sub_cancel, Nat.pow_one]
          split <;> omega
        · simp only [Nat.add_sub_cancel, Nat.pow_one]
          rcases hn with hn | hn <;> split <;> omega
      · have hopen := Sequence.open?_four (htoNat (0xF0 + n / 262144) (by omega)) (by omega)
        rw [utf8Bytes_four (by omega) hn]
        refine run?_opened hopen ⟨by simp, ?_, ?_⟩ rest
        · simp only [Nat.add_sub_cancel, show (64 ^ 2 : ℕ) = 4096 from rfl]
          split <;> omega
        · simp only [Nat.add_sub_cancel, show (64 ^ 2 : ℕ) = 4096 from rfl]
          split <;> omega

theorem run?_encodeUtf8_append (text : Text) (rest : List UInt8) :
    run? none (encodeUtf8 text ++ rest) = behind text (run? none rest) := by
  induction text with
  | nil => simp [encodeUtf8]
  | cons c text ih =>
    have hcons : encodeUtf8 (c :: text) ++ rest = utf8Bytes c ++ (encodeUtf8 text ++ rest) := by
      simp [encodeUtf8]
    rw [hcons, run?_utf8Bytes, ih, behind_behind, List.singleton_append]

/-- Bytes decode to a text without a rest exactly if they are the bytes of the text. -/
theorem run?_eq_some_none_iff {bytes : List UInt8} {text : Text} :
    run? none bytes = some (text, none) ↔ bytes = encodeUtf8 text := by
  constructor
  · intro hrun
    simpa [held] using (sound_none.run? hrun).2
  · rintro rfl
    simpa [run?] using run?_encodeUtf8_append text []

end Decoder

/-- Encoding never makes one text look like the beginning of another one. -/
theorem prefix_of_encodeUtf8_prefix {first second : Text}
    (h : encodeUtf8 first <+: encodeUtf8 second) : first <+: second := by
  obtain ⟨rest, hrest⟩ := h
  have hsecond := Decoder.run?_eq_some_none_iff.mpr (rfl : encodeUtf8 second = encodeUtf8 second)
  rw [← hrest, Decoder.run?_encodeUtf8_append] at hsecond
  obtain ⟨⟨more, last⟩, -, heq⟩ := Option.map_eq_some_iff.mp hsecond
  obtain ⟨rfl, -⟩ := Prod.mk.inj heq
  exact List.prefix_append _ _

theorem encodeUtf8_injective {first second : Text} (h : encodeUtf8 first = encodeUtf8 second) :
    first = second := by
  have hfirst := Decoder.run?_eq_some_none_iff.mpr h
  rw [Decoder.run?_eq_some_none_iff.mpr rfl] at hfirst
  exact (Prod.mk.inj (Option.some.inj hfirst)).1

/-- All texts that some bytes begin with are beginnings of one of them. -/
theorem exists_longest_text (bytes : List UInt8) :
    ∃ valid, encodeUtf8 valid <+: bytes ∧
      ∀ other, encodeUtf8 other <+: bytes → other <+: valid := by
  induction bytes using List.reverseRecOn with
  | nil =>
    refine ⟨[], List.prefix_rfl, fun other hother => ?_⟩
    exact prefix_of_encodeUtf8_prefix hother
  | append_singleton bytes byte ih =>
    by_cases hwhole : ∃ text, encodeUtf8 text = bytes ++ [byte]
    · obtain ⟨text, htext⟩ := hwhole
      rw [← htext]
      exact ⟨text, List.prefix_rfl, fun other => prefix_of_encodeUtf8_prefix⟩
    · obtain ⟨valid, hvalid, hlongest⟩ := ih
      refine ⟨valid, hvalid.trans (List.prefix_append _ _), fun other hother => ?_⟩
      rcases List.prefix_concat_iff.mp hother with heq | hother
      · exact (hwhole ⟨other, heq⟩).elim
      · exact hlongest other hother

theorem length_le_encodeUtf8 (text : Text) : text.length ≤ (encodeUtf8 text).length := by
  induction text with
  | nil => exact Nat.zero_le _
  | cons c text ih =>
    have hbytes : 1 ≤ (utf8Bytes c).length := by
      unfold utf8Bytes
      dsimp only
      split_ifs <;> simp
    have hcons : encodeUtf8 (c :: text) = utf8Bytes c ++ encodeUtf8 text := rfl
    rw [hcons, List.length_append, List.length_cons]
    omega

theorem encodeUtf8_eq_flatMap (text : Text) :
    encodeUtf8 text = text.flatMap String.utf8EncodeChar := by
  have hbytes : utf8Bytes = String.utf8EncodeChar := funext utf8Bytes_eq_utf8EncodeChar
  rw [encodeUtf8, hbytes]

end SlashDoc
