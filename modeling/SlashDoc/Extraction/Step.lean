import SlashDoc.Extraction.Snapshot
import SlashDoc.Html
import SlashDoc.Line
import SlashDoc.Settings

/-!
The extraction, one source line at a time. The body of a comment line enters the open block:
consecutive signatures are collected and become one table as soon as another body follows; the
description of a parameter becomes a list item; a header sets the nesting level of the headings
after it.
-/

namespace SlashDoc

open Text

inductive Body where
  | signature (name type : Text)
  | parameter (item : Text)
  | header (depth : Nat)
  | prose
  deriving DecidableEq, Repr

namespace Body

def signature? (body : Text) : Option (Text × Text) :=
  match NamedSignature.ofBody? body with
  | some found => some (found.name, found.type)
  | none => (UnnamedSignature.ofBody? body).map fun found => ([], found.type)

/-- Classifies a body. A signature comes first, then a parameter, then a header. -/
def classify (body : Text) : Body :=
  match signature? body with
  | some (name, type) => .signature name type
  | none =>
    match Parameter.ofBody? body with
    | some found => .parameter found.item
    | none =>
      match Header.depth? body with
      | some depth => .header depth
      | none => .prose

end Body

def Signature.table (settings : Settings) (signatures : List Signature) : Text :=
  Html.renderTable .code settings.tableClass (signatures.map Signature.cells)

namespace Snapshot

def flushSignatures (settings : Settings) (snapshot : Snapshot) : Snapshot :=
  if snapshot.signatureCount = 0 then snapshot
  else
    { snapshot with signatureTail := .empty, signatureCount := 0 }.addLine
      (Signature.table settings snapshot.signatures)

def feed (settings : Settings) (snapshot : Snapshot) (body : Text) : Snapshot :=
  match Body.classify body with
  | .signature name type => snapshot.addSignature ⟨name, settings.separator, type⟩
  | .parameter item => (snapshot.flushSignatures settings).addLine item
  | .header depth => { snapshot.flushSignatures settings with depth }.addLine body
  | .prose => (snapshot.flushSignatures settings).addLine body

end Snapshot

/-! ## Steps

A run of comments that is followed by a blank line or by a function is kept as a block of the
document; a run followed by any other line is an inline comment and is dropped.
-/

inductive CodeLine where
  | blank
  | boundFunction (name params : Text)
  | namedFunction (name params : Text)
  | other
  deriving DecidableEq, Repr

/-- Classifies a line of code. A blank line comes first, then a bound function, then a named one. -/
def CodeLine.classify (line : Text) : CodeLine :=
  if isBlankText line then .blank
  else
    match search BoundFunction.start? line with
    | some (_, found) => .boundFunction found.name found.params
    | none =>
      match search NamedFunction.start? line with
      | some (_, found) => .namedFunction found.name found.params
      | none => .other

structure Step where
  snapshot : Snapshot
  block : Option Block := none
  deriving DecidableEq, Repr

namespace Snapshot

def openBlock (settings : Settings) (snapshot : Snapshot) (body : Text) : Snapshot :=
  { snapshot with status := .inBlock, blockTail := .empty, blockSize := 0 }.feed settings body

def committedLines (heading : Option Text) (block : List Text) : List Text :=
  match heading with
  | none | some [] => block
  | some heading => heading :: block

/-- Keeps the open block. An empty line is counted between two blocks of the document. -/
def commit (settings : Settings) (snapshot : Snapshot) (closing : Closing) (heading : Option Text) :
    Step :=
  let flushed := snapshot.flushSignatures settings
  let lines := committedLines heading flushed.block
  let gap := if flushed.documentLines = 0 || lines = [] then 0 else 1
  { snapshot :=
      { flushed with
        status := .outOfBlock
        blockTail := .empty
        blockSize := 0
        documentLines := flushed.documentLines + gap + lines.length
        keptBlocks := flushed.keptBlocks + 1 }
    block := some ⟨flushed.keptBlocks, closing, heading, lines⟩ }

def discard (snapshot : Snapshot) : Snapshot :=
  { snapshot with
    status := .outOfBlock
    blockTail := .empty
    blockSize := 0
    signatureTail := .empty
    signatureCount := 0
    discardedBlocks := snapshot.discardedBlocks + 1 }

def headingFor (snapshot : Snapshot) (name params : Text) : Text :=
  List.replicate (snapshot.depth + 1) '#' ++ [' '] ++ name ++ params

def close (settings : Settings) (snapshot : Snapshot) (line : Text) : Step :=
  if snapshot.hasPending then
    match CodeLine.classify line with
    | .blank => snapshot.commit settings .blankLine none
    | .boundFunction name params =>
      snapshot.commit settings .boundFunction (some (snapshot.headingFor name params))
    | .namedFunction name params =>
      snapshot.commit settings .namedFunction (some (snapshot.headingFor name params))
    | .other => { snapshot := snapshot.discard }
  else { snapshot := { snapshot with status := .outOfBlock } }

def step (settings : Settings) (snapshot : Snapshot) (line : Text) : Step :=
  let counted := { snapshot with processedLines := snapshot.processedLines + 1 }
  match Comment.body? line, counted.status with
  | some body, .inBlock => { snapshot := counted.feed settings body }
  | some body, .outOfBlock => { snapshot := counted.openBlock settings body }
  | none, .inBlock => counted.close settings line
  | none, .outOfBlock => { snapshot := counted }

def finish (settings : Settings) (snapshot : Snapshot) : Step :=
  match snapshot.status with
  | .inBlock => snapshot.close settings []
  | .outOfBlock => { snapshot }

end Snapshot

/-! ## Operations -/

inductive Operation where
  | addLine (line : Text)
  | addSignature (signature : Signature)
  | feed (body : Text)
  | flushSignatures
  | openBlock (body : Text)
  | commit (closing : Closing) (heading : Option Text)
  | discard
  | close (line : Text)
  | step (line : Text)
  | finish
  deriving DecidableEq, Repr

/-- What an operation leads to. Only closing and committing can keep a block. -/
def Operation.apply (settings : Settings) (snapshot : Snapshot) : Operation → Step
  | addLine line => { snapshot := snapshot.addLine line }
  | addSignature signature => { snapshot := snapshot.addSignature signature }
  | feed body => { snapshot := snapshot.feed settings body }
  | flushSignatures => { snapshot := snapshot.flushSignatures settings }
  | openBlock body => { snapshot := snapshot.openBlock settings body }
  | commit closing heading => snapshot.commit settings closing heading
  | discard => { snapshot := snapshot.discard }
  | close line => snapshot.close settings line
  | step line => snapshot.step settings line
  | finish => snapshot.finish settings

end SlashDoc
