import Mathlib.Data.List.TakeWhile
import SlashDoc.Extraction.Step

/-!
# What comment bodies add to a block

The lines of a block are laid out by looking at all its bodies together: every maximal group of
consecutive signatures stands as one table where the group stood, and every other body stands for
itself. Feeding the bodies one by one into a snapshot gives the same lines, although the snapshot
never looks ahead and keeps the signatures of an unfinished group apart from the block.
-/
namespace SlashDoc

variable {settings : Settings}

def Signature.ofBody? (settings : Settings) (body : Text) : Option Signature :=
  (Body.signature? body).map fun (name, type) => ⟨name, settings.separator, type⟩

def Signature.tableLines (settings : Settings) (signatures : List Signature) : List Text :=
  if signatures = [] then [] else [Signature.table settings signatures]

namespace Body

def isSignature (body : Text) : Bool :=
  (signature? body).isSome

def content (body : Text) : Text :=
  match Parameter.ofBody? body with
  | some found => found.item
  | none => body

/-- The nesting level that a body announces: the length of its first run of number signs, unless
the body is a signature or describes a parameter. -/
def level? (body : Text) : Option ℕ :=
  if isSignature body || (Parameter.ofBody? body).isSome || !body.contains '#' then none
  else some ((body.dropWhile (· != '#')).takeWhile (· == '#')).length

def lastLevel (bodies : List Text) : ℕ :=
  (bodies.filterMap level?).getLastD 1

def leadingSignatures (settings : Settings) (bodies : List Text) : List Signature :=
  (bodies.takeWhile isSignature).filterMap (Signature.ofBody? settings)

def layout (settings : Settings) : List Text → List Text
  | [] => []
  | body :: rest =>
    if isSignature body then
      Signature.table settings (leadingSignatures settings (body :: rest)) ::
        layout settings (rest.dropWhile isSignature)
    else content body :: layout settings rest
termination_by bodies => bodies.length
decreasing_by
  · exact Nat.lt_succ_of_le (List.length_dropWhile_le _ _)
  · exact Nat.lt_succ_self _

/-- The lines that bodies make up behind signatures which already wait for their table. -/
def layoutAfter (settings : Settings) (pending : List Signature) (bodies : List Text) :
    List Text :=
  Signature.tableLines settings (pending ++ leadingSignatures settings bodies) ++
    layout settings (bodies.dropWhile isSignature)

theorem exists_ofBody? (settings : Settings) {body : Text} (h : isSignature body = true) :
    ∃ signature, Signature.ofBody? settings body = some signature := by
  obtain ⟨found, hfound⟩ := Option.isSome_iff_exists.mp h
  exact ⟨_, by rw [Signature.ofBody?, hfound]; rfl⟩

theorem leadingSignatures_cons {body : Text} {signature : Signature} (rest : List Text)
    (hbody : isSignature body = true) (h : Signature.ofBody? settings body = some signature) :
    leadingSignatures settings (body :: rest) =
      signature :: leadingSignatures settings rest := by
  simp [leadingSignatures, hbody, h]

theorem leadingSignatures_cons_of_content {body : Text} (rest : List Text)
    (h : isSignature body = false) : leadingSignatures settings (body :: rest) = [] := by
  simp [leadingSignatures, h]

theorem layout_eq_layoutAfter (bodies : List Text) :
    layout settings bodies = layoutAfter settings [] bodies := by
  cases bodies with
  | nil => simp [layout, layoutAfter, leadingSignatures, Signature.tableLines]
  | cons body rest =>
    by_cases hbody : isSignature body = true
    · obtain ⟨signature, h⟩ := exists_ofBody? settings hbody
      simp [layout, layoutAfter, hbody, leadingSignatures_cons rest hbody h, Signature.tableLines]
    · have hbody : isSignature body = false := by simpa using hbody
      simp [layoutAfter, hbody, leadingSignatures_cons_of_content rest hbody,
        Signature.tableLines]

theorem layoutAfter_nil (pending : List Signature) :
    layoutAfter settings pending [] = Signature.tableLines settings pending := by
  simp [layoutAfter, leadingSignatures, layout]

/-- A signature joins the ones that wait. -/
theorem layoutAfter_cons {body : Text} {signature : Signature} (pending : List Signature)
    (rest : List Text) (hbody : isSignature body = true)
    (h : Signature.ofBody? settings body = some signature) :
    layoutAfter settings pending (body :: rest) =
      layoutAfter settings (pending ++ [signature]) rest := by
  simp [layoutAfter, hbody, leadingSignatures_cons rest hbody h]

/-- Any other body ends their group. -/
theorem layoutAfter_cons_of_content {body : Text} (pending : List Signature) (rest : List Text)
    (h : isSignature body = false) :
    layoutAfter settings pending (body :: rest) =
      Signature.tableLines settings pending ++ content body :: layoutAfter settings [] rest := by
  rw [← layout_eq_layoutAfter]
  simp [layoutAfter, h, leadingSignatures_cons_of_content rest h, layout]

theorem layout_eq_nil_iff {bodies : List Text} : layout settings bodies = [] ↔ bodies = [] := by
  cases bodies with
  | nil => simp [layout]
  | cons body rest =>
    rw [layout]
    split <;> simp

theorem layoutAfter_cons_ne_nil (settings : Settings) (pending : List Signature) (body : Text)
    (rest : List Text) : layoutAfter settings pending (body :: rest) ≠ [] := by
  by_cases hbody : isSignature body = true
  · obtain ⟨signature, h⟩ := exists_ofBody? settings hbody
    rw [layoutAfter_cons pending rest hbody h]
    simp [layoutAfter, Signature.tableLines]
  · rw [layoutAfter_cons_of_content pending rest (by simpa using hbody)]
    simp

theorem level?_pos {body : Text} {level : ℕ} (h : level? body = some level) : 1 ≤ level := by
  unfold level? at h
  split at h
  · cases h
  · rename_i hcontent
    obtain rfl := Option.some.inj h
    have hmem : '#' ∈ body := by
      simp only [Bool.or_eq_true, Bool.not_eq_true', not_or] at hcontent
      simpa using hcontent.2
    cases hdrop : body.dropWhile (· != '#') with
    | nil => simpa using List.dropWhile_eq_nil_iff.mp hdrop '#' hmem
    | cons c tail =>
      have hc := List.head?_dropWhile_not (· != '#') body
      rw [hdrop] at hc
      obtain rfl : c = '#' := by simpa using hc
      simp

theorem lastLevel_concat (bodies : List Text) (body : Text) :
    lastLevel (bodies ++ [body]) = (level? body).getD (lastLevel bodies) := by
  cases h : level? body <;> simp [lastLevel, h]

end Body

theorem Header.depth?_eq (body : Text) :
    Header.depth? body = if body.contains '#' then
      some ((body.dropWhile (· != '#')).takeWhile (· == '#')).length else none := by
  induction body with
  | nil => rfl
  | cons c rest ih =>
    by_cases hc : c = '#'
    · simp [hc, Header.depth?, Text.search, Header.run?]
    · have hrun : Header.run? (c :: rest) = none := by simp [Header.run?, hc]
      have hdepth : Header.depth? (c :: rest) = Header.depth? rest := by
        simp [Header.depth?, Text.search, hrun, Function.comp_def]
      rw [hdepth, ih]
      simp [hc, Ne.symm hc]

namespace Snapshot

structure Balanced (snapshot : Snapshot) : Prop where
  blockSize : snapshot.blockSize = snapshot.block.length
  signatureCount : snapshot.signatureCount = snapshot.signatures.length

theorem Balanced.addLine {snapshot : Snapshot} (h : snapshot.Balanced) (line : Text) :
    (snapshot.addLine line).Balanced := by
  constructor
  · rw [block_addLine, List.length_append, ← h.blockSize]
    rfl
  · exact h.signatureCount

theorem Balanced.addSignature {snapshot : Snapshot} (h : snapshot.Balanced)
    (signature : Signature) : (snapshot.addSignature signature).Balanced := by
  constructor
  · exact h.blockSize
  · rw [signatures_addSignature, List.length_append, ← h.signatureCount]
    rfl

/-- With matching counters a flush does the same whether or not anything waits for a table. -/
theorem Balanced.flushSignatures_eq {snapshot : Snapshot} (h : snapshot.Balanced)
    (settings : Settings) :
    snapshot.flushSignatures settings =
      { snapshot with
        blockTail :=
          snapshot.blockTail.append (Signature.tableLines settings snapshot.signatures)
        blockSize :=
          (snapshot.block ++ Signature.tableLines settings snapshot.signatures).length
        signatureTail := .empty
        signatureCount := 0 } := by
  obtain ⟨status, blockTail, blockSize, signatureTail, signatureCount, depth, documentLines,
    processedLines, keptBlocks, discardedBlocks⟩ := snapshot
  obtain ⟨rfl, rfl⟩ : blockSize = blockTail.items.length ∧
      signatureCount = signatureTail.items.length := ⟨h.blockSize, h.signatureCount⟩
  by_cases hnone : signatureTail = .empty
  · simp [flushSignatures, Signature.tableLines, block, signatures, hnone]
  · simp [flushSignatures, Signature.tableLines, Snapshot.addLine, block, signatures, hnone]

theorem Balanced.flushSignatures {snapshot : Snapshot} (h : snapshot.Balanced)
    (settings : Settings) : (snapshot.flushSignatures settings).Balanced := by
  rw [h.flushSignatures_eq]
  exact ⟨by simp [block], rfl⟩

theorem feed_of_signature {body : Text} {signature : Signature}
    (h : Signature.ofBody? settings body = some signature) (snapshot : Snapshot) :
    snapshot.feed settings body = snapshot.addSignature signature := by
  obtain ⟨found, hfound, rfl⟩ := Option.map_eq_some_iff.mp h
  simp [feed, Body.classify, hfound]

/-- A body other than a signature first ends the group before it. -/
theorem feed_of_content {body : Text} (h : Body.isSignature body = false) (settings : Settings)
    (snapshot : Snapshot) :
    snapshot.feed settings body =
      { (snapshot.flushSignatures settings).addLine (Body.content body) with
        depth := (Body.level? body).getD (snapshot.flushSignatures settings).depth } := by
  have hnone : Body.signature? body = none := by simpa [Body.isSignature] using h
  cases hparameter : Parameter.ofBody? body with
  | some found =>
    simp [feed, Body.classify, Body.content, Body.level?, hnone, hparameter, Snapshot.addLine]
  | none =>
    cases hdepth : Header.depth? body with
    | some depth =>
      have hlevel : Body.level? body = some depth := by
        rw [Header.depth?_eq] at hdepth
        simpa [Body.level?, h, hparameter] using hdepth
      simp [feed, Body.classify, Body.content, hnone, hparameter, hdepth, hlevel,
        Snapshot.addLine]
    | none =>
      have hlevel : Body.level? body = none := by
        rw [Header.depth?_eq] at hdepth
        simpa [Body.level?, h, hparameter] using hdepth
      simp [feed, Body.classify, Body.content, hnone, hparameter, hdepth, hlevel,
        Snapshot.addLine]

theorem Balanced.feed {snapshot : Snapshot} (h : snapshot.Balanced) (settings : Settings)
    (body : Text) : (snapshot.feed settings body).Balanced := by
  by_cases hbody : Body.isSignature body = true
  · obtain ⟨signature, hsignature⟩ := Body.exists_ofBody? settings hbody
    rw [feed_of_signature hsignature]
    exact h.addSignature signature
  · rw [feed_of_content (by simpa using hbody)]
    have hline := (h.flushSignatures settings).addLine (Body.content body)
    exact ⟨hline.blockSize, hline.signatureCount⟩

/-- One body moves from the bodies to come into the snapshot and changes nothing in the layout. -/
theorem Balanced.feed_layoutAfter {snapshot : Snapshot} (h : snapshot.Balanced)
    (settings : Settings) (body : Text) (more : List Text) :
    (snapshot.feed settings body).block ++
        Body.layoutAfter settings (snapshot.feed settings body).signatures more =
      snapshot.block ++ Body.layoutAfter settings snapshot.signatures (body :: more) := by
  by_cases hbody : Body.isSignature body = true
  · obtain ⟨signature, hsignature⟩ := Body.exists_ofBody? settings hbody
    rw [feed_of_signature hsignature, Body.layoutAfter_cons _ _ hbody hsignature]
    simp [Snapshot.addSignature, block, signatures]
  · have hbody : Body.isSignature body = false := by simpa using hbody
    rw [feed_of_content hbody, h.flushSignatures_eq, Body.layoutAfter_cons_of_content _ _ hbody]
    simp [Snapshot.addLine, block, signatures]

theorem flushSignatures_frame (settings : Settings) (snapshot : Snapshot) :
    ∃ blockTail blockSize signatureTail signatureCount, snapshot.flushSignatures settings =
      { snapshot with blockTail, blockSize, signatureTail, signatureCount } := by
  unfold flushSignatures
  split
  · exact ⟨_, _, _, _, rfl⟩
  · exact ⟨_, _, _, _, rfl⟩

/-- Apart from the two sequences and their counters, a body can only change the nesting level. -/
theorem feed_frame (settings : Settings) (snapshot : Snapshot) (body : Text) :
    ∃ blockTail blockSize signatureTail signatureCount, snapshot.feed settings body =
      { snapshot with
        blockTail, blockSize, signatureTail, signatureCount
        depth := (Body.level? body).getD snapshot.depth } := by
  by_cases hbody : Body.isSignature body = true
  · obtain ⟨signature, hsignature⟩ := Body.exists_ofBody? settings hbody
    have hlevel : Body.level? body = none := by simp [Body.level?, hbody]
    rw [feed_of_signature hsignature, hlevel]
    exact ⟨_, _, _, _, rfl⟩
  · obtain ⟨blockTail, blockSize, signatureTail, signatureCount, hflush⟩ :=
      flushSignatures_frame settings snapshot
    rw [feed_of_content (by simpa using hbody), hflush]
    exact ⟨_, _, _, _, rfl⟩

/-- Something is pending exactly if keeping the block would add a line to the document. -/
theorem Balanced.hasPending_iff {snapshot : Snapshot} (h : snapshot.Balanced)
    (settings : Settings) :
    snapshot.hasPending = true ↔
      snapshot.block ++ Signature.tableLines settings snapshot.signatures ≠ [] := by
  simp [hasPending, h.blockSize, h.signatureCount, Signature.tableLines, or_iff_not_imp_left]

theorem Balanced.eq_empty_of_not_hasPending {snapshot : Snapshot} (h : snapshot.Balanced)
    (hpending : snapshot.hasPending = false) :
    (snapshot.blockTail = .empty ∧ snapshot.blockSize = 0) ∧
      snapshot.signatureTail = .empty ∧ snapshot.signatureCount = 0 := by
  obtain ⟨hsize, hcount⟩ : snapshot.blockSize = 0 ∧ snapshot.signatureCount = 0 := by
    simpa [hasPending] using hpending
  refine ⟨⟨?_, hsize⟩, ?_, hcount⟩
  · exact Chain.items_eq_nil_iff.mp
      (List.length_eq_zero_iff.mp (h.blockSize.symm.trans hsize))
  · exact Chain.items_eq_nil_iff.mp
      (List.length_eq_zero_iff.mp (h.signatureCount.symm.trans hcount))

theorem Balanced.hasPending_feed {snapshot : Snapshot} (h : snapshot.Balanced)
    (settings : Settings) (body : Text) : (snapshot.feed settings body).hasPending = true := by
  have hlayout := h.feed_layoutAfter settings body []
  rw [Body.layoutAfter_nil] at hlayout
  rw [(h.feed settings body).hasPending_iff settings, hlayout]
  simp [Body.layoutAfter_cons_ne_nil]

theorem Balanced.commit_block {snapshot : Snapshot} (h : snapshot.Balanced) (settings : Settings)
    (closing : Closing) (heading : Option Text) :
    (snapshot.commit settings closing heading).block =
      some ⟨snapshot.keptBlocks, closing, heading, committedLines heading
        (snapshot.block ++ Signature.tableLines settings snapshot.signatures)⟩ := by
  rw [commit, h.flushSignatures_eq]
  simp [block]

theorem Balanced.commit_snapshot {snapshot : Snapshot} (h : snapshot.Balanced)
    (settings : Settings) (closing : Closing) (heading : Option Text) :
    ∃ documentLines, (snapshot.commit settings closing heading).snapshot =
      { snapshot with
        status := .outOfBlock
        blockTail := .empty
        blockSize := 0
        signatureTail := .empty
        signatureCount := 0
        documentLines
        keptBlocks := snapshot.keptBlocks + 1 } := by
  rw [commit, h.flushSignatures_eq]
  exact ⟨_, rfl⟩

theorem committedLines_headingFor (snapshot : Snapshot) (name params : Text) (block : List Text) :
    committedLines (some (snapshot.headingFor name params)) block =
      snapshot.headingFor name params :: block := by
  simp [committedLines, headingFor, List.replicate_succ]

end Snapshot

end SlashDoc
