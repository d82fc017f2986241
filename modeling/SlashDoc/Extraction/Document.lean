import SlashDoc.Extraction.Step
import SlashDoc.Line
import SlashDoc.Log

/-!
The extraction of a whole document: the blocks kept so far, the document they make up, and the
events that a detailed log would show.
-/

namespace SlashDoc

/-- A document as the lines of its blocks, with one empty line before a block unless nothing stands
before it. -/
def Block.document (blocks : List Block) : List Text :=
  blocks.foldl
    (fun lines block => (if lines = [] then [] else lines ++ [[]]) ++ block.lines) []

/-- An extraction in progress. Whether it is logged decides over its events and nothing else. -/
structure Extraction where
  debug : Bool := false
  snapshot : Snapshot := {}
  blocks : List Block := []
  events : List Event := []
  deriving DecidableEq, Repr

namespace Extraction

/-- The number of characters that are logged of a line after a dropped comment. -/
def loggedWidth : Nat := 50

def eventsOf (before : Snapshot) (line : Text) (step : Step) : List Event :=
  match step.block with
  | some block => [.blockKept block]
  | none =>
    if before.discardedBlocks < step.snapshot.discardedBlocks then
      [.commentDiscarded step.snapshot.processedLines (line.take loggedWidth)]
    else []

def log (extraction : Extraction) (events : List Event) : Extraction :=
  { extraction with events := extraction.events ++ if extraction.debug then events else [] }

def record (extraction : Extraction) (line : Text) (step : Step) : Extraction :=
  { extraction.log (eventsOf extraction.snapshot line step) with
    snapshot := step.snapshot
    blocks := extraction.blocks ++ step.block.toList }

def feed (settings : Settings) (extraction : Extraction) (line : Text) : Extraction :=
  extraction.record line (extraction.snapshot.step settings line)

def finish (settings : Settings) (extraction : Extraction) : Extraction :=
  let closed := extraction.record [] (extraction.snapshot.finish settings)
  closed.log [.extractionFinished closed.snapshot]

def document (extraction : Extraction) : Text :=
  Text.unlines (Block.document extraction.blocks)

def feedAll (settings : Settings) (extraction : Extraction) (lines : List Text) : Extraction :=
  lines.foldl (feed settings) extraction

def ofText (settings : Settings) (text : Text) (debug : Bool := false) : Extraction :=
  (feedAll settings { debug } (Line.split text)).finish settings

end Extraction

def extractBlocks (settings : Settings) (text : Text) (debug : Bool := false) : List Block :=
  (Extraction.ofText settings text debug).blocks

def extractDocument (settings : Settings) (text : Text) (debug : Bool := false) : Text :=
  (Extraction.ofText settings text debug).document

/-! ## Streams

A source can also be given in chunks of text. Every block is delivered with the chunk that completes
the line after it.
-/

/-- A block, and how many chunks had been taken when it was delivered. -/
structure Delivery where
  chunksRead : Nat
  block : Block
  deriving DecidableEq, Repr

structure Stream where
  buffer : Line.Buffer := {}
  extraction : Extraction := {}
  chunksRead : Nat := 0
  deliveries : List Delivery := []
  deriving DecidableEq, Repr

namespace Stream

/-- Goes on with an extraction that the last chunk has led to, and delivers its new blocks. -/
def advance (stream : Stream) (extraction : Extraction) : Stream :=
  { stream with
    extraction
    deliveries := stream.deliveries ++
      (extraction.blocks.drop stream.extraction.blocks.length).map fun block =>
        ⟨stream.chunksRead, block⟩ }

def feed (settings : Settings) (stream : Stream) (chunk : Text) : Stream :=
  let (buffer, lines) := stream.buffer.feed chunk
  { stream with buffer, chunksRead := stream.chunksRead + 1 }.advance
    (stream.extraction.feedAll settings lines)

def finish (settings : Settings) (stream : Stream) : Stream :=
  let (buffer, lines) := stream.buffer.close
  { stream with buffer }.advance ((stream.extraction.feedAll settings lines).finish settings)

def feedAll (settings : Settings) (stream : Stream) (chunks : List Text) : Stream :=
  chunks.foldl (feed settings) stream

def ofChunks (settings : Settings) (chunks : List Text) (debug : Bool := false) : Stream :=
  (feedAll settings { extraction := { debug } } chunks).finish settings

def blocks (stream : Stream) : List Block :=
  stream.deliveries.map Delivery.block

def document (stream : Stream) : Text :=
  Text.unlines (Block.document stream.blocks)

end Stream

end SlashDoc
