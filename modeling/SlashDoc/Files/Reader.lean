import SlashDoc.Files.Tree
import SlashDoc.Text.Quoted

/-!
Text files. A decoder takes in bytes one at a time and remembers the character that it is in the
middle of, so that a file can be decoded in blocks that are cut anywhere.
-/

namespace SlashDoc

open Text

inductive Encoding where
  | utf8
  | latin1
  | ascii
  deriving DecidableEq, Repr

namespace Encoding

def name : Encoding → Text
  | utf8 => "utf-8".toList
  | latin1 => "latin-1".toList
  | ascii => "ascii".toList

end Encoding

inductive DecodeCause where
  | invalidStart
  | invalidContinuation
  | unexpectedEnd
  | outOfRange
  deriving DecidableEq, Repr

def DecodeCause.message : DecodeCause → Text
  | invalidStart => "invalid start byte".toList
  | invalidContinuation => "invalid continuation byte".toList
  | unexpectedEnd => "unexpected end of data".toList
  | outOfRange => "ordinal not in range(128)".toList

structure DecodeFault where
  encoding : Encoding
  start : Nat
  bytes : List UInt8
  cause : DecodeCause
  deriving DecidableEq, Repr

namespace DecodeFault

def place (fault : DecodeFault) : Text :=
  match fault.bytes with
  | [byte] => "byte 0x".toList ++ hexDigits 2 byte.toNat ++ " in position ".toList ++
      Text.ofNat fault.start
  | bytes => "bytes in position ".toList ++ Text.ofNat fault.start ++ ['-'] ++
      Text.ofNat (fault.start + bytes.length - 1)

def message (fault : DecodeFault) : Text :=
  quoted fault.encoding.name ++ " codec can't decode ".toList ++ fault.place ++ ": ".toList ++
    fault.cause.message

end DecodeFault

/-- A character whose first bytes have been seen: the bytes, newest first, the bits they give, how
many are still to come, and the bounds of the next one. -/
structure Sequence where
  seen : List UInt8
  code : Nat
  missing : Nat
  low : Nat
  high : Nat
  deriving DecidableEq, Repr

namespace Sequence

/-- The sequence that a first byte opens: how many bytes follow, and the bounds of the second one.
The bounds leave out overlong forms, surrogates and code points beyond the last one. -/
def open? (byte : UInt8) : Option Sequence :=
  let b := byte.toNat
  if 0xC2 ≤ b && b ≤ 0xDF then some ⟨[byte], b - 0xC0, 1, 0x80, 0xBF⟩
  else if b = 0xE0 then some ⟨[byte], 0, 2, 0xA0, 0xBF⟩
  else if b = 0xED then some ⟨[byte], 0xD, 2, 0x80, 0x9F⟩
  else if 0xE1 ≤ b && b ≤ 0xEF then some ⟨[byte], b - 0xE0, 2, 0x80, 0xBF⟩
  else if b = 0xF0 then some ⟨[byte], 0, 3, 0x90, 0xBF⟩
  else if 0xF1 ≤ b && b ≤ 0xF3 then some ⟨[byte], b - 0xF0, 3, 0x80, 0xBF⟩
  else if b = 0xF4 then some ⟨[byte], 4, 3, 0x80, 0x8F⟩
  else none

def continue? (sequence : Sequence) (byte : UInt8) : Option Sequence :=
  if sequence.low ≤ byte.toNat && byte.toNat ≤ sequence.high then
    some ⟨byte :: sequence.seen, sequence.code * 64 + (byte.toNat - 0x80), sequence.missing - 1,
      0x80, 0xBF⟩
  else none

end Sequence

abbrev Decoder := Option Sequence

namespace Decoder

def held (decoder : Decoder) : List UInt8 :=
  match decoder with
  | none => []
  | some sequence => sequence.seen.reverse

/-- Decodes bytes, the first of which stands at `position`. Gives the characters and what is
remembered after them. -/
def utf8 : (position : Nat) → Decoder → List UInt8 → Except DecodeFault (Text × Decoder)
  | _, decoder, [] => .ok ([], decoder)
  | position, none, byte :: rest =>
    if byte.toNat < 0x80 then do
      let (text, decoder) ← utf8 (position + 1) none rest
      return (Char.ofNat byte.toNat :: text, decoder)
    else
      match Sequence.open? byte with
      | some sequence => utf8 (position + 1) (some sequence) rest
      | none => .error ⟨.utf8, position, [byte], .invalidStart⟩
  | position, some sequence, byte :: rest =>
    match sequence.continue? byte with
    | none => .error ⟨.utf8, position - sequence.seen.length, sequence.seen.reverse,
        .invalidContinuation⟩
    | some longer =>
      if longer.missing = 0 then do
        let (text, decoder) ← utf8 (position + 1) none rest
        return (Char.ofNat longer.code :: text, decoder)
      else utf8 (position + 1) (some longer) rest

def ascii : (position : Nat) → List UInt8 → Except DecodeFault Text
  | _, [] => .ok []
  | position, byte :: rest =>
    if byte.toNat < 0x80 then do
      let text ← ascii (position + 1) rest
      return Char.ofNat byte.toNat :: text
    else .error ⟨.ascii, position, [byte], .outOfRange⟩

/-- Decodes one block. Positions count from the first byte of an unfinished character. -/
def feed (encoding : Encoding) (decoder : Decoder) (block : List UInt8) :
    Except DecodeFault (Text × Decoder) :=
  match encoding with
  | .utf8 => utf8 decoder.held.length decoder block
  | .latin1 => .ok (block.map fun byte => Char.ofNat byte.toNat, none)
  | .ascii => (ascii 0 block).map fun text => (text, none)

def finish (position : Nat) : Decoder → Except DecodeFault Unit
  | none => .ok ()
  | some sequence => .error ⟨.utf8, position - sequence.seen.length, sequence.seen.reverse,
      .unexpectedEnd⟩

end Decoder

def Encoding.decode (encoding : Encoding) (bytes : List UInt8) : Except DecodeFault Text := do
  let (text, decoder) ← Decoder.feed encoding none bytes
  Decoder.finish bytes.length decoder
  return text

def utf8Bytes (c : Char) : List UInt8 :=
  let n := c.toNat
  let following (bits : Nat) : UInt8 := UInt8.ofNat (0x80 + bits % 64)
  if n < 0x80 then [UInt8.ofNat n]
  else if n < 0x800 then [UInt8.ofNat (0xC0 + n / 64), following n]
  else if n < 0x10000 then [UInt8.ofNat (0xE0 + n / 4096), following (n / 64), following n]
  else [UInt8.ofNat (0xF0 + n / 262144), following (n / 4096), following (n / 64), following n]

def encodeUtf8 (text : Text) : List UInt8 :=
  text.flatMap utf8Bytes

/-! ## Chunks

A file is read in chunks of a given number of characters. It is taken in blocks of bytes, and a
block is decoded as a whole: a chunk is delivered only if all blocks it needs can be decoded.
-/

inductive ReadFault where
  | nullCharacter
  | path (fault : PathFault) (given : Text)
  | encoding (fault : DecodeFault)
  deriving DecidableEq, Repr

def nullMessage : Text := "embedded null byte".toList

def ReadFault.message : ReadFault → Text
  | nullCharacter => nullMessage
  | path fault given => fault.message given
  | encoding fault => fault.message

/-- A file that is being read: the bytes not yet taken, what the decoder remembers, the characters
not yet delivered, whether a carriage return is held back until the next block, and the sizes of the
last block in bytes and characters. -/
structure Reader where
  encoding : Encoding
  bytes : List UInt8
  decoder : Decoder := none
  ready : Text := []
  heldReturn : Bool := false
  density : Option (Nat × Nat) := none
  deriving DecidableEq, Repr

namespace Reader

def leastBlock : Nat := 8192

/-- How many bytes are taken when `wanted` characters are missing: as many as the last block needed
for that many characters, but not fewer than the characters themselves. -/
def blockSize (reader : Reader) (wanted : Nat) : Nat :=
  match reader.density with
  | none => max leastBlock wanted
  | some (bytes, chars) => max leastBlock (max wanted (wanted * bytes / chars))

/-- Makes decoded characters ready. A carriage return at the end of a block is held back unless the
block is the last one. -/
def release (reader : Reader) (last : Bool) (bytes : Nat) (decoded : Text) : Reader :=
  let text := if reader.heldReturn && (last || decoded != []) then '\r' :: decoded else decoded
  let kept := reader.heldReturn && !(last || decoded != [])
  let held := !last && text.getLast? == some '\r'
  let shown := if held then text.dropLast else text
  { reader with
    ready := reader.ready ++ shown
    heldReturn := held || kept
    density := if shown = [] then none else some (bytes, shown.length) }

def takeBlock (reader : Reader) (wanted : Nat) : Except DecodeFault Reader := do
  let size := reader.blockSize wanted
  let block := reader.bytes.take size
  let (decoded, decoder) ← Decoder.feed reader.encoding reader.decoder block
  return { reader with bytes := reader.bytes.drop size, decoder }.release false block.length decoded

def takeEnd (reader : Reader) : Except DecodeFault Reader := do
  Decoder.finish reader.decoder.held.length reader.decoder
  return { reader with decoder := none }.release true 0 []

/-- Takes blocks until enough characters are ready or the file has ended. Every block takes at least
one byte, so it is enough to look once more often than there are bytes. -/
def fill (wanted : Nat) : (looks : Nat) → Reader → Except DecodeFault Reader
  | 0, reader => .ok reader
  | looks + 1, reader =>
    if wanted ≤ reader.ready.length then .ok reader
    else if reader.bytes = [] then reader.takeEnd
    else do fill wanted looks (← reader.takeBlock (wanted - reader.ready.length))

/-- The chunks of a file, and the fault that ended them. Every chunk has a character, so `chunks`
need not be larger than the number of bytes and one. -/
def chunksFrom (size : Nat) : (chunks : Nat) → Reader → List Text × Option DecodeFault
  | 0, _ => ([], none)
  | chunks + 1, reader =>
    match fill size (reader.bytes.length + 1) reader with
    | .error fault => ([], some fault)
    | .ok filled =>
      match filled.ready.take size with
      | [] => ([], none)
      | chunk =>
        let (rest, fault) := chunksFrom size chunks { filled with ready := filled.ready.drop size }
        (chunk :: rest, fault)

end Reader

inductive ChunkSize where
  | chars (size : Nat)
  | everything
  deriving DecidableEq, Repr

def ChunkSize.standard : ChunkSize := .chars 65536

def chunksOfBytes (size : ChunkSize) (encoding : Encoding) (bytes : List UInt8) :
    List Text × Option DecodeFault :=
  match size with
  | .chars size => Reader.chunksFrom size (bytes.length + 1) { encoding, bytes }
  | .everything =>
    match encoding.decode bytes with
    | .error fault => ([], some fault)
    | .ok [] => ([], none)
    | .ok text => ([text], none)

def readChunks (tree : FileTree) (path : Text) (size : ChunkSize) (encoding : Encoding) :
    List Text × Option ReadFault :=
  if path.contains '\x00' then ([], some .nullCharacter)
  else
    match tree.read path with
    | .error fault => ([], some (.path fault path))
    | .ok bytes =>
      let (chunks, fault) := chunksOfBytes size encoding bytes
      (chunks, fault.map ReadFault.encoding)

end SlashDoc
