import SlashDoc.Validation

/-!
What an extraction works on: captured type signatures, the blocks of the document, and the state
between two source lines. Each signature becomes one row of a table.
-/

namespace SlashDoc

open Text

structure Signature where
  name : Text := []
  separator : Text := "::".toList
  type : Text
  deriving DecidableEq, Repr

namespace Signature

def cells (signature : Signature) : List Text :=
  [signature.name, signature.separator, signature.type]

def ofFields (fields : Fields) : Checked Signature :=
  let name := Fields.optional fields "name" Rule.text []
  let separator := Fields.optional fields "separator" Rule.text "::".toList
  let type := Fields.required fields "type_expression" Rule.text
  Checked.and (Checked.and (name.map Signature.mk) separator) type

def ofValue : Value → Checked Signature
  | .record fields => ofFields fields
  | _ => Checked.refuse [] (.notRecord "SignatureEntry".toList)

end Signature

/-! ## Blocks

A block holds the lines that one run of comments adds to the document.
-/

inductive Closing where
  | blankLine
  | boundFunction
  | namedFunction
  | discarded
  deriving DecidableEq, Repr

namespace Closing

def name : Closing → Text
  | blankLine => "blank_line".toList
  | boundFunction => "bound_function".toList
  | namedFunction => "named_function".toList
  | discarded => "discarded".toList

def all : List Closing :=
  [blankLine, boundFunction, namedFunction, discarded]

def ofName? (text : Text) : Option Closing :=
  all.find? fun closing => closing.name = text

def unknownMessage (given : Text) : Text :=
  quoted given ++ " is not a valid BlockTermination".toList

end Closing

/-- A block of the document: its place among the kept blocks, how it was closed, the heading of the
function it documents, and its lines, the heading included. -/
structure Block where
  index : Nat
  closing : Closing
  heading : Option Text := none
  lines : List Text := []
  deriving DecidableEq, Repr

namespace Block

def text (block : Block) : Text :=
  unlines block.lines

def ofFields (fields : Fields) : Checked Block :=
  let index := Fields.required fields "index" (Rule.atLeast 0)
  let closing := Fields.required fields "termination"
    (Rule.choice (Closing.all.map Closing.name) Closing.ofName?)
  let heading := Fields.optional fields "heading" Rule.optionalText none
  let lines := Fields.optional fields "lines" Rule.texts []
  Checked.and (Checked.and (Checked.and (index.map Block.mk) closing) heading) lines

def context (block : Block) : Fields :=
  [("block_index", .integer block.index),
   ("termination", .text block.closing.name),
   ("heading", (block.heading.map Value.text).getD .null),
   ("line_count", .integer block.lines.length)]

end Block

/-! ## Snapshots

A snapshot holds the block that is being accumulated and counts what has been done so far; the
document itself is not part of it.
-/

inductive Status where
  | inBlock
  | outOfBlock
  deriving DecidableEq, Repr

namespace Status

def name : Status → Text
  | inBlock => "in_block".toList
  | outOfBlock => "out_of_block".toList

def all : List Status :=
  [inBlock, outOfBlock]

def ofName? (text : Text) : Option Status :=
  all.find? fun status => status.name = text

end Status

/-- A sequence that grows at its end. A link only points back, so that snapshots can share what
they have in common, and adding an item changes none of them. -/
inductive Chain (α : Type) where
  | empty
  | link (previous : Chain α) (item : α)
  deriving DecidableEq, Repr

namespace Chain

variable {α : Type}

def append (chain : Chain α) (items : List α) : Chain α :=
  items.foldl link chain

def newestFirst : Chain α → List α
  | empty => []
  | link previous item => item :: newestFirst previous

def items (chain : Chain α) : List α :=
  chain.newestFirst.reverse

@[simp] theorem items_empty : (empty : Chain α).items = [] := rfl

@[simp] theorem items_link (chain : Chain α) (item : α) :
    (link chain item).items = chain.items ++ [item] := by
  simp [items, newestFirst]

@[simp] theorem append_nil (chain : Chain α) : chain.append [] = chain := rfl

@[simp] theorem append_singleton (chain : Chain α) (item : α) :
    chain.append [item] = link chain item := rfl

theorem append_append (chain : Chain α) (items more : List α) :
    (chain.append items).append more = chain.append (items ++ more) :=
  List.foldl_append.symm

@[simp] theorem items_append (chain : Chain α) (items : List α) :
    (chain.append items).items = chain.items ++ items := by
  induction items generalizing chain with
  | nil => rw [append_nil, List.append_nil]
  | cons item items ih =>
    have hlinked := ih (link chain item)
    rw [items_link, List.append_assoc] at hlinked
    exact hlinked

/-- Reading a chain and linking its items again gives the chain back. -/
theorem append_items (chain : Chain α) : empty.append chain.items = chain := by
  induction chain with
  | empty => rfl
  | link previous item ih =>
    rw [items_link, ← append_append, ih, append_singleton]

theorem eq_of_items_eq {chain other : Chain α} (h : chain.items = other.items) : chain = other := by
  rw [← append_items chain, h, append_items]

@[simp] theorem items_eq_nil_iff {chain : Chain α} : chain.items = [] ↔ chain = empty := by
  constructor
  · intro h
    exact eq_of_items_eq h
  · rintro rfl
    rfl

end Chain

/-- The state between two source lines. The lines of the open block and the pending signatures each
have a counter of their own, which decides whether anything is pending. -/
structure Snapshot where
  status : Status := .inBlock
  blockTail : Chain Text := .empty
  blockSize : Nat := 0
  signatureTail : Chain Signature := .empty
  signatureCount : Nat := 0
  depth : Nat := 1
  documentLines : Nat := 0
  processedLines : Nat := 0
  keptBlocks : Nat := 0
  discardedBlocks : Nat := 0
  deriving DecidableEq, Repr

namespace Snapshot

def block (snapshot : Snapshot) : List Text :=
  snapshot.blockTail.items

def signatures (snapshot : Snapshot) : List Signature :=
  snapshot.signatureTail.items

def isOpen (snapshot : Snapshot) : Bool :=
  snapshot.status = .inBlock

/-- Whether the open block holds anything that a code line could close. -/
def hasPending (snapshot : Snapshot) : Bool :=
  snapshot.blockSize != 0 || snapshot.signatureCount != 0

def description (snapshot : Snapshot) : Text :=
  match snapshot.status with
  | .outOfBlock => "scanning_for_comments".toList
  | .inBlock => "in_block_".toList ++ Text.ofNat snapshot.blockSize ++ "_lines_".toList ++
      Text.ofNat snapshot.signatureCount ++ "_signatures".toList

def addLine (snapshot : Snapshot) (line : Text) : Snapshot :=
  { snapshot with
    blockTail := .link snapshot.blockTail line
    blockSize := snapshot.blockSize + 1 }

def addSignature (snapshot : Snapshot) (signature : Signature) : Snapshot :=
  { snapshot with
    signatureTail := .link snapshot.signatureTail signature
    signatureCount := snapshot.signatureCount + 1 }

@[simp] theorem block_addLine (snapshot : Snapshot) (line : Text) :
    (snapshot.addLine line).block = snapshot.block ++ [line] :=
  Chain.items_link ..

@[simp] theorem signatures_addSignature (snapshot : Snapshot) (signature : Signature) :
    (snapshot.addSignature signature).signatures = snapshot.signatures ++ [signature] :=
  Chain.items_link ..

def context (snapshot : Snapshot) : Fields :=
  [("state", .text snapshot.description),
   ("depth", .integer snapshot.depth),
   ("processed_lines", .integer snapshot.processedLines),
   ("flushed_blocks", .integer snapshot.keptBlocks),
   ("discarded_blocks", .integer snapshot.discardedBlocks),
   ("document_lines", .integer snapshot.documentLines)]

/-- The lines of a given block; a bare text counts as the list of its characters. -/
def givenBlock? (fields : Fields) : Option (List Text) :=
  match fields.lookup "block" with
  | none => none
  | some (.text t) => some (t.map fun c => [c])
  | some (.list items) => some (items.filterMap fun
      | .text t => some t
      | _ => none)
  | some _ => some []

/-- The given signatures. Each is checked on its own, and the first wrong one is reported. -/
def givenSignatures? (fields : Fields) : Checked (Option (List Signature)) :=
  match fields.lookup "signatures" with
  | some (.list items) => (items.mapM Signature.ofValue).map some
  | some _ => .ok (some [])
  | none => .ok none

def countOf {α : Type} (fields : Fields) (name : String) (given : Option (List α)) : Checked Nat :=
  match given with
  | some items => .ok items.length
  | none => Fields.optional fields name (Rule.atLeast 0) 0

def ofSequences (fields : Fields) (block : Option (List Text))
    (signatures : Option (List Signature)) : Checked Snapshot :=
  let counter (name : String) : Checked Nat := Fields.optional fields name (Rule.atLeast 0) 0
  let status := Fields.optional fields "status"
    (Rule.choice (Status.all.map Status.name) Status.ofName?) .inBlock
  let depth := Fields.optional fields "depth" (Rule.atLeast 1) 1
  let build := fun (status : Status) (blockSize signatureCount depth documentLines processedLines
      keptBlocks discardedBlocks : Nat) =>
    { status, blockTail := Chain.empty.append (block.getD []), blockSize,
      signatureTail := Chain.empty.append (signatures.getD []), signatureCount,
      depth, documentLines, processedLines, keptBlocks, discardedBlocks : Snapshot }
  Checked.and (Checked.and (Checked.and (Checked.and (Checked.and (Checked.and (Checked.and
    (status.map build)
    (countOf fields "block_size" block))
    (countOf fields "signature_count" signatures))
    depth)
    (counter "document_lines"))
    (counter "processed_lines"))
    (counter "flushed_blocks"))
    (counter "discarded_blocks")

/-- Reads a snapshot from a given value. A given sequence sets its counter too. -/
def ofValue : Value → Checked Snapshot
  | .record fields =>
    match givenSignatures? fields with
    | .error problems => .error problems
    | .ok signatures => ofSequences fields (givenBlock? fields) signatures
  | _ => Checked.refuse [] (.notRecord "ExtractionState".toList)

end Snapshot

end SlashDoc
