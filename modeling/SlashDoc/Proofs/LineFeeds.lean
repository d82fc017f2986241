import Mathlib.Data.List.Induction
import SlashDoc.Proofs.BodyShapes
import SlashDoc.Proofs.CommentLines
import SlashDoc.Proofs.FunctionShapes
import SlashDoc.Proofs.ReachableSnapshots

/-!
# No line feeds inside the lines of a block

A line that is handed over may have line feeds in it. None of them gets into a block: a body ends at
the first one, a name has no blanks, and a parameter list ends before the first one. Only the cells
that come from the settings could bring one into a table.
-/
namespace SlashDoc

open Text

variable {settings : Settings}

def Text.OneLine (text : Text) : Prop := '\n' ∉ text

namespace Text

theorem OneLine.append {first second : Text} (hfirst : OneLine first) (hsecond : OneLine second) :
    OneLine (first ++ second) := by
  intro hmem
  rcases List.mem_append.mp hmem with hmem | hmem
  · exact hfirst hmem
  · exact hsecond hmem

theorem oneLine_of_forall {p : Char → Bool} {value : Bool} {text : Text}
    (h : ∀ c ∈ text, p c = value) (hfeed : p '\n' ≠ value) : OneLine text :=
  fun hmem => hfeed (h '\n' hmem)

theorem exists_of_search {α : Type} {recognise : Text → Option α} {text before : Text} {found : α}
    (h : search recognise text = some (before, found)) : ∃ rest, recognise rest = some found := by
  obtain ⟨rest, -, hfound, -⟩ := search_eq_some_iff.mp h
  exact ⟨rest, hfound⟩

end Text

theorem NamedSignature.oneLine_of_ofBody? {body : Text} {found : NamedSignature}
    (h : ofBody? body = some found) : OneLine found.name ∧ OneLine found.type := by
  obtain ⟨tail, hfits⟩ := ofBody?_eq_some_iff.mp h
  exact ⟨oneLine_of_forall hfits.name (by decide), hfits.type.1⟩

theorem UnnamedSignature.oneLine_of_ofBody? {body : Text} {found : UnnamedSignature}
    (h : ofBody? body = some found) : OneLine found.type := by
  obtain ⟨tail, hreads⟩ := ofBody?_eq_some_iff.mp h
  exact hreads.type.1

theorem Signature.oneLine_cells {body : Text} {signature : Signature}
    (hseparator : OneLine settings.separator)
    (h : Signature.ofBody? settings body = some signature) :
    ∀ cell ∈ signature.cells, OneLine cell := by
  obtain ⟨⟨name, type⟩, hfound, rfl⟩ := Option.map_eq_some_iff.mp h
  have hparts : OneLine name ∧ OneLine type := by
    unfold Body.signature? at hfound
    split at hfound
    · rename_i hnamed
      obtain ⟨rfl, rfl⟩ := Prod.mk.inj (Option.some.inj hfound)
      exact NamedSignature.oneLine_of_ofBody? hnamed
    · obtain ⟨found, hunnamed, heq⟩ := Option.map_eq_some_iff.mp hfound
      obtain ⟨rfl, rfl⟩ := Prod.mk.inj heq
      exact ⟨List.not_mem_nil, UnnamedSignature.oneLine_of_ofBody? hunnamed⟩
  simp only [cells, List.forall_mem_cons]
  exact ⟨hparts.1, hseparator, hparts.2, by simp⟩

theorem Parameter.oneLine_item {body : Text} {found : Parameter}
    (h : ofBody? body = some found) : OneLine found.item := by
  obtain ⟨tail, hreads⟩ := ofBody?_eq_some_iff.mp h
  have hfront : OneLine [found.marker, ' ', '\x60'] := by
    rcases hreads.marker with hmarker | hmarker | hmarker <;> simp [OneLine, hmarker]
  have hname : OneLine found.name := oneLine_of_forall hreads.name (by decide)
  have hgap : OneLine ['\x60', ' '] := by simp [OneLine]
  exact ((hfront.append hname).append hgap).append hreads.description.1

theorem Body.oneLine_content {body : Text} (h : OneLine body) : OneLine (content body) := by
  unfold content
  split
  · rename_i hfound
    exact Parameter.oneLine_item hfound
  · exact h

theorem IsParameterList.oneLine {params : Text} (h : IsParameterList params) : OneLine params := by
  obtain ⟨inner, rfl, hinner⟩ := h
  simp [OneLine, hinner]

theorem BoundFunction.oneLine_of_start? {text : Text} {found : BoundFunction}
    (h : start? text = some found) : OneLine found.name ∧ OneLine found.params := by
  obtain ⟨hfits, -⟩ := start?_eq_some_iff.mp h
  exact ⟨oneLine_of_forall hfits.name (by decide), hfits.params.oneLine⟩

theorem NamedFunction.oneLine_of_start? {text : Text} {found : NamedFunction}
    (h : start? text = some found) : OneLine found.name ∧ OneLine found.params := by
  obtain ⟨hfits, -⟩ := start?_eq_some_iff.mp h
  exact ⟨oneLine_of_forall hfits.name (by decide), hfits.params.oneLine⟩

namespace CodeLine

theorem oneLine_of_boundFunction {line name params : Text}
    (h : classify line = .boundFunction name params) : OneLine name ∧ OneLine params := by
  unfold classify at h
  split at h
  · cases h
  · split at h
    · rename_i hfound
      obtain ⟨rest, hrest⟩ := exists_of_search hfound
      obtain ⟨rfl, rfl⟩ := CodeLine.boundFunction.inj h
      exact BoundFunction.oneLine_of_start? hrest
    · split at h <;> cases h

theorem oneLine_of_namedFunction {line name params : Text}
    (h : classify line = .namedFunction name params) : OneLine name ∧ OneLine params := by
  unfold classify at h
  split at h
  · cases h
  · split at h
    · cases h
    · split at h
      · rename_i hfound
        obtain ⟨rest, hrest⟩ := exists_of_search hfound
        obtain ⟨rfl, rfl⟩ := CodeLine.namedFunction.inj h
        exact NamedFunction.oneLine_of_start? hrest
      · cases h

end CodeLine

namespace Html

theorem oneLine_escape {text : Text} (h : OneLine text) : OneLine (escape text) := by
  intro hmem
  obtain ⟨c, hc, hentity⟩ := List.mem_flatMap.mp hmem
  have hfeed : '\n' = c := by
    unfold entity at hentity
    split at hentity
    all_goals simp at hentity
    exact hentity
  exact h (hfeed ▸ hc)

theorem oneLine_code {text : Text} (h : OneLine text) : OneLine (CellFormat.code.apply text) := by
  have hopen : OneLine "<code>".toList := by simp [OneLine]
  have hclose : OneLine "</code>".toList := by simp [OneLine]
  exact (hopen.append h).append hclose

theorem oneLine_renderCell {cell : Text} (h : OneLine cell) : OneLine (renderCell .code cell) := by
  have hopen : OneLine "<td>".toList := by simp [OneLine]
  have hclose : OneLine "</td>".toList := by simp [OneLine]
  exact (hopen.append (oneLine_code (oneLine_escape h))).append hclose

theorem oneLine_renderRow {row : List Text} (h : ∀ cell ∈ row, OneLine cell) :
    OneLine (renderRow .code row) := by
  have hcells : OneLine (row.flatMap (renderCell .code)) := by
    intro hmem
    obtain ⟨cell, hcell, hmem⟩ := List.mem_flatMap.mp hmem
    exact oneLine_renderCell (h cell hcell) hmem
  have hopen : OneLine "<tr>".toList := by simp [OneLine]
  have hclose : OneLine "</tr>".toList := by simp [OneLine]
  exact (hopen.append hcells).append hclose

theorem oneLine_renderTable {cssClass : Text} {rows : List (List Text)} (hclass : OneLine cssClass)
    (hrows : ∀ row ∈ rows, ∀ cell ∈ row, OneLine cell) :
    OneLine (renderTable .code cssClass rows) := by
  have hbody : OneLine (rows.flatMap (renderRow .code)) := by
    intro hmem
    obtain ⟨row, hrow, hmem⟩ := List.mem_flatMap.mp hmem
    exact oneLine_renderRow (hrows row hrow) hmem
  have hopen : OneLine "<table class=\"".toList := by simp [OneLine]
  have hgap : OneLine "\">".toList := by simp [OneLine]
  have hclose : OneLine "</table>".toList := by simp [OneLine]
  unfold renderTable
  split
  · exact List.not_mem_nil
  · exact (((hopen.append (oneLine_escape hclass)).append hgap).append hbody).append hclose

end Html

def Settings.OneLine (settings : Settings) : Prop :=
  Text.OneLine settings.separator ∧ Text.OneLine settings.tableClass

namespace Snapshot

structure OneLines (snapshot : Snapshot) : Prop where
  block : ∀ line ∈ snapshot.block, OneLine line
  signatures : ∀ signature ∈ snapshot.signatures, ∀ cell ∈ signature.cells, OneLine cell

namespace OneLines

variable {snapshot : Snapshot}

theorem addLine (h : snapshot.OneLines) {line : Text} (hline : OneLine line) :
    (snapshot.addLine line).OneLines where
  block := by
    intro other hmem
    rw [block_addLine] at hmem
    rcases List.mem_append.mp hmem with hmem | hmem
    · exact h.block other hmem
    · rwa [List.mem_singleton.mp hmem]
  signatures := h.signatures

theorem addSignature (h : snapshot.OneLines) {signature : Signature}
    (hcells : ∀ cell ∈ signature.cells, OneLine cell) :
    (snapshot.addSignature signature).OneLines where
  block := h.block
  signatures := by
    intro other hmem
    rw [signatures_addSignature] at hmem
    rcases List.mem_append.mp hmem with hmem | hmem
    · exact h.signatures other hmem
    · rwa [List.mem_singleton.mp hmem]

theorem flushSignatures (h : snapshot.OneLines) (hsettings : settings.OneLine) :
    (snapshot.flushSignatures settings).OneLines := by
  unfold Snapshot.flushSignatures
  split
  · exact h
  · have htable : OneLine (Signature.table settings snapshot.signatures) := by
      apply Html.oneLine_renderTable hsettings.2
      simpa using h.signatures
    have hcleared : ({ snapshot with signatureTail := .empty, signatureCount := 0 } :
        Snapshot).OneLines := ⟨h.block, List.forall_mem_nil _⟩
    exact hcleared.addLine htable

theorem feed (h : snapshot.OneLines) (hsettings : settings.OneLine) {body : Text}
    (hbody : OneLine body) : (snapshot.feed settings body).OneLines := by
  by_cases hsignature : Body.isSignature body = true
  · obtain ⟨signature, hsignature⟩ := Body.exists_ofBody? settings hsignature
    rw [feed_of_signature hsignature]
    exact h.addSignature (Signature.oneLine_cells hsettings.1 hsignature)
  · rw [feed_of_content (by simpa using hsignature)]
    have hadded := (h.flushSignatures hsettings).addLine (Body.oneLine_content hbody)
    exact ⟨hadded.block, hadded.signatures⟩

theorem openBlock (h : snapshot.OneLines) (hsettings : settings.OneLine) {body : Text}
    (hbody : OneLine body) : (snapshot.openBlock settings body).OneLines := by
  have hempty : ({ snapshot with status := .inBlock, blockTail := .empty, blockSize := 0 } :
      Snapshot).OneLines := ⟨List.forall_mem_nil _, h.signatures⟩
  exact hempty.feed hsettings hbody

end OneLines

end Snapshot

structure Step.OneLines (step : Step) : Prop where
  snapshot : step.snapshot.OneLines
  block : ∀ block ∈ step.block, ∀ line ∈ block.lines, OneLine line

namespace Snapshot.OneLines

variable {snapshot : Snapshot}

theorem oneLine_headingFor (snapshot : Snapshot) {name params : Text} (hname : OneLine name)
    (hparams : OneLine params) : OneLine (snapshot.headingFor name params) := by
  have hmarks : OneLine (List.replicate (snapshot.depth + 1) '#' ++ [' ']) := by
    simp [OneLine, List.mem_replicate]
  exact (hmarks.append hname).append hparams

theorem commit (h : snapshot.OneLines) (hsettings : settings.OneLine) (closing : Closing)
    {heading : Option Text} (hheading : ∀ line ∈ heading, OneLine line) :
    (snapshot.commit settings closing heading).OneLines := by
  have hflushed := h.flushSignatures hsettings
  refine ⟨⟨List.forall_mem_nil _, hflushed.signatures⟩, ?_⟩
  intro block hblock line hline
  obtain rfl : _ = block := by simpa [Snapshot.commit] using hblock
  rcases heading with _ | _ | ⟨c, heading⟩
  · exact hflushed.block line hline
  · exact hflushed.block line hline
  · rcases List.mem_cons.mp hline with rfl | hline
    · exact hheading _ rfl
    · exact hflushed.block line hline

theorem discard (snapshot : Snapshot) : snapshot.discard.OneLines :=
  ⟨List.forall_mem_nil _, List.forall_mem_nil _⟩

theorem close (h : snapshot.OneLines) (hsettings : settings.OneLine) (line : Text) :
    (snapshot.close settings line).OneLines := by
  unfold Snapshot.close
  split
  · split
    · exact h.commit hsettings _ (by simp)
    · rename_i name params hline
      obtain ⟨hname, hparams⟩ := CodeLine.oneLine_of_boundFunction hline
      exact h.commit hsettings _ (by simpa using oneLine_headingFor snapshot hname hparams)
    · rename_i name params hline
      obtain ⟨hname, hparams⟩ := CodeLine.oneLine_of_namedFunction hline
      exact h.commit hsettings _ (by simpa using oneLine_headingFor snapshot hname hparams)
    · exact ⟨discard snapshot, by simp⟩
  · exact ⟨⟨h.block, h.signatures⟩, by simp⟩

theorem step (h : snapshot.OneLines) (hsettings : settings.OneLine) (line : Text) :
    (snapshot.step settings line).OneLines := by
  have hcounted : snapshot.counted.OneLines := ⟨h.block, h.signatures⟩
  apply step_cases (motive := Step.OneLines)
  case feeds =>
    intro body hbody _
    exact ⟨hcounted.feed hsettings (Comment.feed_notMem_of_body? hbody), by simp⟩
  case opens =>
    intro body hbody _
    exact ⟨hcounted.openBlock hsettings (Comment.feed_notMem_of_body? hbody), by simp⟩
  case closes => exact fun _ _ => hcounted.close hsettings line
  case skips => exact fun _ _ => ⟨hcounted, by simp⟩

theorem finish (h : snapshot.OneLines) (hsettings : settings.OneLine) :
    (snapshot.finish settings).OneLines := by
  apply finish_cases (motive := Step.OneLines)
  case closes => exact fun _ => h.close hsettings []
  case skips => exact fun _ => ⟨h, by simp⟩

end Snapshot.OneLines

theorem Call.oneLines_apply {snapshot : Snapshot} (h : snapshot.OneLines) {call : Call}
    (hsettings : call.settings.OneLine) : (call.apply snapshot).OneLines := by
  cases call with
  | line settings text => exact h.step hsettings text
  | finish settings => exact h.finish hsettings

/-- Settings without line feeds keep them out of every block. -/
theorem oneLine_of_mem_blocks {calls : List Call}
    (hsettings : ∀ call ∈ calls, call.settings.OneLine) :
    (Session.after calls).snapshot.OneLines ∧
      ∀ block ∈ (Session.after calls).blocks, ∀ line ∈ block.lines, OneLine line := by
  induction calls using List.reverseRecOn with
  | nil => exact ⟨⟨List.forall_mem_nil _, List.forall_mem_nil _⟩, List.forall_mem_nil _⟩
  | append_singleton calls call ih =>
    obtain ⟨hsnapshot, hblocks⟩ := ih fun other hother =>
      hsettings other (List.mem_append_left _ hother)
    have hstep := Call.oneLines_apply hsnapshot (hsettings call (by simp))
    rw [Session.after_concat]
    refine ⟨hstep.snapshot, ?_⟩
    intro block hmem
    rcases List.mem_append.mp hmem with hmem | hmem
    · exact hblocks block hmem
    · exact hstep.block block (by simpa using hmem)

end SlashDoc
