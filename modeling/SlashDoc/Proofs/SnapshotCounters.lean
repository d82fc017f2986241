import Mathlib.Data.List.Forall2
import SlashDoc.Extraction.Step
import SlashDoc.Proofs.ReachableSnapshots

/-!
# Counters that follow their sequences

A snapshot has a counter beside each of its two sequences and looks only at the counters. A snapshot
that is built from plain sequences starts with the right counters, whatever else is given, and every
operation keeps them right. The operations may be applied in any order, also to a snapshot that has
already been left behind. A snapshot that is built from bare counters is not covered.
-/
namespace SlashDoc

theorem Checked.and_eq_ok_iff {α β : Type} {f : Checked (α → β)} {a : Checked α} {b : β} :
    Checked.and f a = .ok b ↔ ∃ g x, f = .ok g ∧ a = .ok x ∧ g x = b := by
  cases f <;> cases a <;> simp [Checked.and]

theorem Checked.exists_of_map_eq_ok {α β : Type} {f : α → β} {a : Checked α} {b : β}
    (h : a.map f = .ok b) : ∃ x, f x = b := by
  cases a with
  | error problems => cases h
  | ok x => exact ⟨x, Except.ok.inj h⟩

theorem mapM_of_forall₂ {α β : Type} {read : α → Checked β} {items : List α} {found : List β}
    (h : List.Forall₂ (fun item one => read item = .ok one) items found) :
    items.mapM read = .ok found := by
  induction h with
  | nil => rfl
  | cons hitem _ ih =>
    rw [List.mapM_cons, hitem, ih]
    rfl

/-- The lines that a value stands for: those of a list, or the single characters of a text. -/
inductive Value.Spells : Value → List Text → Prop where
  | list (lines : List Text) : Spells (.list (lines.map .text)) lines
  | text (characters : Text) : Spells (.text characters) (characters.map fun c => [c])

structure Fields.Gives (fields : Fields) (block : List Text) (signatures : List Signature) :
    Prop where
  block : ∃ value, fields.lookup "block" = some value ∧ value.Spells block
  signatures : ∃ items, fields.lookup "signatures" = some (.list items) ∧
    List.Forall₂ (fun item signature => Signature.ofValue item = .ok signature) items signatures

namespace Snapshot

variable {fields : Fields} {block : List Text} {signatures : List Signature}

theorem givenBlock?_of_gives (h : fields.Gives block signatures) :
    givenBlock? fields = some block := by
  obtain ⟨value, hlookup, hvalue⟩ := h.block
  cases hvalue with
  | list => simp [givenBlock?, hlookup, List.filterMap_map]
  | text => simp [givenBlock?, hlookup]

theorem givenSignatures?_of_gives (h : fields.Gives block signatures) :
    givenSignatures? fields = .ok (some signatures) := by
  obtain ⟨items, hlookup, hitems⟩ := h.signatures
  simp only [givenSignatures?, hlookup, mapM_of_forall₂ hitems]
  rfl

theorem ofValue_of_gives (h : fields.Gives block signatures) :
    ofValue (.record fields) = ofSequences fields (some block) (some signatures) := by
  simp only [ofValue, givenSignatures?_of_gives h, givenBlock?_of_gives h]

/-- A given sequence is taken over with its length, so no field for its counter is read. -/
theorem sequences_of_ofSequences {snapshot : Snapshot}
    (h : ofSequences fields (some block) (some signatures) = .ok snapshot) :
    snapshot.block = block ∧ snapshot.signatures = signatures ∧ snapshot.Balanced := by
  simp only [ofSequences, Checked.and_eq_ok_iff] at h
  obtain ⟨_, _, ⟨_, _, ⟨_, _, ⟨_, _, ⟨_, _, ⟨_, _, ⟨build, blockSize, hbuild, hsize, rfl⟩,
    hcount, rfl⟩, -, rfl⟩, -, rfl⟩, -, rfl⟩, -, rfl⟩, -, rfl⟩ := h
  obtain ⟨status, rfl⟩ := Checked.exists_of_map_eq_ok hbuild
  have hblock : (Chain.empty.append block).items = block := Chain.items_append ..
  have hsignatures : (Chain.empty.append signatures).items = signatures := Chain.items_append ..
  refine ⟨hblock, hsignatures, ?_, ?_⟩
  · exact (Except.ok.inj hsize).symm.trans (congrArg List.length hblock.symm)
  · exact (Except.ok.inj hcount).symm.trans (congrArg List.length hsignatures.symm)

/-- Whatever is given for the counters, even something that is no number, goes unnoticed. -/
theorem ofSequences_with_counters (size count : Value) :
    ofSequences (("block_size", size) :: ("signature_count", count) :: fields) (some block)
        (some signatures) =
      ofSequences fields (some block) (some signatures) := by
  simp [ofSequences, countOf, Fields.optional, List.lookup_cons]

end Snapshot

theorem Fields.Gives.with_counters {fields : Fields} {block : List Text}
    {signatures : List Signature} (h : fields.Gives block signatures) (size count : Value) :
    Fields.Gives (("block_size", size) :: ("signature_count", count) :: fields) block
      signatures := by
  constructor
  · simpa [List.lookup_cons] using h.block
  · simpa [List.lookup_cons] using h.signatures

namespace Snapshot.Balanced

variable {snapshot : Snapshot}

theorem openBlock (h : snapshot.Balanced) (settings : Settings) (body : Text) :
    (snapshot.openBlock settings body).Balanced := by
  have hempty : ({ snapshot with status := .inBlock, blockTail := .empty, blockSize := 0 } :
      Snapshot).Balanced := ⟨rfl, h.signatureCount⟩
  exact hempty.feed settings body

theorem commit (h : snapshot.Balanced) (settings : Settings) (closing : Closing)
    (heading : Option Text) : (snapshot.commit settings closing heading).snapshot.Balanced := by
  obtain ⟨_, hcommit⟩ := h.commit_snapshot settings closing heading
  rw [hcommit]
  exact ⟨rfl, rfl⟩

theorem close (h : snapshot.Balanced) (settings : Settings) (line : Text) :
    (snapshot.close settings line).snapshot.Balanced := by
  generalize hstep : snapshot.close settings line = step
  have hcloses : snapshot.Closes step := hstep ▸ h.closes_close settings line
  cases hcloses with
  | empty => exact ⟨h.blockSize, h.signatureCount⟩
  | keeps => exact ⟨rfl, rfl⟩
  | drops => exact ⟨rfl, rfl⟩

theorem step (h : snapshot.Balanced) (settings : Settings) (line : Text) :
    (snapshot.step settings line).snapshot.Balanced := by
  have hcounted : snapshot.counted.Balanced := ⟨h.blockSize, h.signatureCount⟩
  apply step_cases (motive := fun step => step.snapshot.Balanced)
  case feeds => exact fun body _ _ => hcounted.feed settings body
  case opens => exact fun body _ _ => hcounted.openBlock settings body
  case closes => exact fun _ _ => hcounted.close settings line
  case skips => exact fun _ _ => hcounted

theorem finish (h : snapshot.Balanced) (settings : Settings) :
    (snapshot.finish settings).snapshot.Balanced := by
  apply finish_cases (motive := fun step => step.snapshot.Balanced)
  case closes => exact fun _ => h.close settings []
  case skips => exact fun _ => h

theorem apply (h : snapshot.Balanced) (settings : Settings) (operation : Operation) :
    (operation.apply settings snapshot).snapshot.Balanced := by
  cases operation with
  | addLine line => exact h.addLine line
  | addSignature signature => exact h.addSignature signature
  | feed body => exact h.feed settings body
  | flushSignatures => exact h.flushSignatures settings
  | openBlock body => exact h.openBlock settings body
  | commit closing heading => exact h.commit settings closing heading
  | discard => exact ⟨rfl, rfl⟩
  | close line => exact h.close settings line
  | step line => exact h.step settings line
  | finish => exact h.finish settings

end Snapshot.Balanced

structure Move where
  source : ℕ
  settings : Settings
  operation : Operation
  deriving DecidableEq, Repr

/-- Adds the snapshot that a move leads to. A move from no snapshot leads nowhere. -/
def Move.extend (snapshots : List Snapshot) (move : Move) : List Snapshot :=
  match snapshots[move.source]? with
  | none => snapshots
  | some snapshot => snapshots ++ [(move.operation.apply move.settings snapshot).snapshot]

def Snapshot.history (initial : Snapshot) (moves : List Move) : List Snapshot :=
  moves.foldl Move.extend [initial]

theorem Move.balanced_extend {snapshots : List Snapshot}
    (h : ∀ snapshot ∈ snapshots, snapshot.Balanced) (move : Move) :
    ∀ snapshot ∈ move.extend snapshots, snapshot.Balanced := by
  unfold Move.extend
  split
  · exact h
  · rename_i source hsource
    intro snapshot hmem
    rcases List.mem_append.mp hmem with hmem | hmem
    · exact h snapshot hmem
    · rw [List.mem_singleton.mp hmem]
      exact (h source (List.mem_of_getElem? hsource)).apply move.settings move.operation

theorem Move.balanced_foldl {snapshots : List Snapshot}
    (h : ∀ snapshot ∈ snapshots, snapshot.Balanced) (moves : List Move) :
    ∀ snapshot ∈ moves.foldl Move.extend snapshots, snapshot.Balanced := by
  induction moves generalizing snapshots with
  | nil => exact h
  | cons move moves ih => exact ih (move.balanced_extend h)

/-- A snapshot that is built from plain sequences has these sequences, and what is given for the
counters makes no difference. Whatever is then done to it, and to any of the snapshots it leads to,
the counters are the lengths of the sequences. -/
theorem given_sequences_counted {fields : Fields} {block : List Text}
    {signatures : List Signature} {initial : Snapshot} (hgives : fields.Gives block signatures)
    (hinitial : Snapshot.ofValue (.record fields) = .ok initial) :
    initial.block = block ∧ initial.signatures = signatures ∧
      (∀ size count, Snapshot.ofValue
        (.record (("block_size", size) :: ("signature_count", count) :: fields)) = .ok initial) ∧
      ∀ moves, ∀ snapshot ∈ Snapshot.history initial moves,
        snapshot.blockSize = snapshot.block.length ∧
          snapshot.signatureCount = snapshot.signatures.length := by
  have hread := hinitial
  rw [Snapshot.ofValue_of_gives hgives] at hread
  obtain ⟨hblock, hsignatures, hbalanced⟩ := Snapshot.sequences_of_ofSequences hread
  refine ⟨hblock, hsignatures, ?_, ?_⟩
  · intro size count
    rw [Snapshot.ofValue_of_gives (hgives.with_counters size count),
      Snapshot.ofSequences_with_counters, hread]
  · intro moves snapshot hmem
    have h := Move.balanced_foldl (by simpa using hbalanced) moves snapshot hmem
    exact ⟨h.blockSize, h.signatureCount⟩

/-- A wrong counter and a status outside a run are given. The third snapshot goes back to the first,
after a commit, and opens a run without clearing the signature that still waits. -/
theorem given_sequences_counted_when_reopened :
    let fields : Fields := [("status", .text "out_of_block".toList),
      ("block", .list [.text "a".toList, .text "b".toList]), ("block_size", .integer 7),
      ("signatures", .list [.record [("type_expression", .text "t".toList)]]),
      ("depth", .integer 3)]
    let initial : Snapshot :=
      { status := .outOfBlock, blockTail := .link (.link .empty "a".toList) "b".toList,
        blockSize := 2, signatureTail := .link .empty { type := "t".toList }, signatureCount := 1,
        depth := 3 }
    let moves : List Move := [⟨0, {}, .commit .blankLine none⟩, ⟨0, {}, .openBlock "c".toList⟩]
    fields.Gives ["a".toList, "b".toList] [{ type := "t".toList }] ∧
      Snapshot.ofValue (.record fields) = .ok initial ∧
      (Snapshot.history initial moves).map Snapshot.blockSize = [2, 0, 2] ∧
      ∀ snapshot ∈ Snapshot.history initial moves,
        snapshot.blockSize = snapshot.block.length ∧
          snapshot.signatureCount = snapshot.signatures.length := by
  intro fields initial moves
  have hgives : fields.Gives ["a".toList, "b".toList] [{ type := "t".toList }] :=
    ⟨⟨_, rfl, .list ["a".toList, "b".toList]⟩, ⟨_, rfl, .cons rfl .nil⟩⟩
  have hinitial : Snapshot.ofValue (.record fields) = .ok initial := rfl
  exact ⟨hgives, hinitial, by decide, (given_sequences_counted hgives hinitial).2.2.2 moves⟩

end SlashDoc
