import Mathlib.Data.List.SplitBy
import SlashDoc.Proofs.BlockLayout

/-!
# Comment bodies in groups

The bodies of a run fall into groups: signatures that follow each other make up one group, and any
other body is a group of its own. Feeding bodies into a snapshot adds one line for each group, in
the order of the groups. Only the first group can be joined with something older, namely with the
signatures that were already waiting for their table.
-/
namespace SlashDoc

variable {settings : Settings}

namespace Body

def sharesTable (body next : Text) : Bool :=
  isSignature body && isSignature next

def groups (bodies : List Text) : List (List Text) :=
  bodies.splitBy sharesTable

def row? (settings : Settings) (body : Text) : Option (List Text) :=
  (signature? body).map fun (name, type) => [name, settings.separator, type]

/-- The line that a group stands for: a table with a row for each signature, or else the one body,
in which the name of a parameter is marked as code and loses its dash. -/
def groupLine (settings : Settings) : List Text → Text
  | [] => []
  | body :: more =>
    if isSignature body then
      Html.renderTable .code settings.tableClass ((body :: more).filterMap (row? settings))
    else
      match Parameter.ofBody? body with
      | some found =>
        [found.marker] ++ " `".toList ++ found.name ++ "` ".toList ++ found.description
      | none => body

theorem row?_eq_map_cells (body : Text) :
    row? settings body = (Signature.ofBody? settings body).map Signature.cells := by
  cases h : signature? body <;> simp [row?, Signature.ofBody?, Signature.cells, h]

theorem map_cells_filterMap_ofBody? (settings : Settings) (bodies : List Text) :
    (bodies.filterMap (Signature.ofBody? settings)).map Signature.cells =
      bodies.filterMap (row? settings) := by
  rw [List.map_filterMap]
  exact List.filterMap_congr fun body _ => (row?_eq_map_cells body).symm

theorem groupLine_of_content {body : Text} (h : isSignature body = false) :
    groupLine settings [body] = content body := by
  cases hparameter : Parameter.ofBody? body <;>
    simp [groupLine, content, h, hparameter, Parameter.item]

theorem groups_of_signatures {body : Text} (h : isSignature body = true) (rest : List Text) :
    groups (body :: rest) =
      (body :: rest.takeWhile isSignature) :: groups (rest.dropWhile isSignature) := by
  have hall : ∀ other ∈ body :: rest.takeWhile isSignature, isSignature other = true := by
    intro other hmem
    rcases List.mem_cons.mp hmem with rfl | hmem
    · exact h
    · exact List.mem_takeWhile_imp hmem
  have hchain : (body :: rest.takeWhile isSignature).IsChain fun a b => sharesTable a b := by
    refine List.Pairwise.isChain (List.pairwise_iff_forall_sublist.mpr fun {a b} hsub => ?_)
    simp [sharesTable, hall a (hsub.subset (by simp)), hall b (hsub.subset (by simp))]
  -- the body behind the signatures is none, so the group ends there
  have hapart : ∀ last ∈ (body :: rest.takeWhile isSignature).getLast?,
      ∀ next ∈ (rest.dropWhile isSignature).head?, sharesTable last next = false := by
    intro last _ next hnext
    have hhead := List.head?_dropWhile_not isSignature rest
    rw [Option.mem_def.mp hnext] at hhead
    simp [sharesTable, show isSignature next = false by simpa using hhead]
  calc groups (body :: rest)
      = groups ((body :: rest.takeWhile isSignature) ++ rest.dropWhile isSignature) := by
        rw [List.cons_append, List.takeWhile_append_dropWhile]
    _ = _ := by
        rw [groups, List.splitBy_append hapart,
          List.splitBy_of_isChain (List.cons_ne_nil _ _) hchain]
        rfl

theorem groups_of_content {body : Text} (h : isSignature body = false) (rest : List Text) :
    groups (body :: rest) = [body] :: groups rest := by
  have hapart : ∀ last ∈ [body].getLast?, ∀ next ∈ rest.head?, sharesTable last next = false := by
    intro last hlast next _
    obtain rfl : body = last := by simpa using hlast
    simp [sharesTable, h]
  exact List.splitBy_append hapart

/-- The layout of a block has one line for each group. -/
theorem layout_eq_map_groups (bodies : List Text) :
    layout settings bodies = (groups bodies).map (groupLine settings) := by
  fun_induction layout settings bodies with
  | case1 => rfl
  | case2 body rest hbody ih =>
    have hrows := map_cells_filterMap_ofBody? settings (body :: rest.takeWhile isSignature)
    rw [groups_of_signatures hbody, List.map_cons, ih]
    simp [groupLine, hbody, Signature.table, leadingSignatures, ← hrows]
  | case3 body rest hbody ih =>
    have hbody : isSignature body = false := by simpa using hbody
    rw [groups_of_content hbody, List.map_cons, ih, groupLine_of_content hbody]

theorem isSignature_of_isChain {group : List Text}
    (h : group.IsChain fun a b => sharesTable a b) (hlength : group.length ≠ 1) :
    ∀ body ∈ group, isSignature body = true := by
  have htrans : IsTrans Text fun a b => sharesTable a b :=
    ⟨fun a b c hab hbc => by simp_all [sharesTable]⟩
  match group, hlength with
  | [], _ => simp
  | first :: second :: rest, _ =>
    have hpairs := (List.pairwise_cons.mp (List.isChain_iff_pairwise.mp h)).1
    intro body hmem
    rcases List.mem_cons.mp hmem with rfl | hmem
    · have hsecond := hpairs second List.mem_cons_self
      simp_all [sharesTable]
    · have hbody := hpairs body hmem
      simp_all [sharesTable]

/-- A group is made of signatures or is one other body. -/
theorem mem_groups_cases {bodies group : List Text} (h : group ∈ groups bodies) :
    group ≠ [] ∧ ((∀ body ∈ group, isSignature body = true) ∨
      ∃ body, group = [body] ∧ isSignature body = false) := by
  refine ⟨List.ne_nil_of_mem_splitBy h, ?_⟩
  by_cases hlength : group.length = 1
  · obtain ⟨body, rfl⟩ := List.length_eq_one_iff.mp hlength
    cases hbody : isSignature body with
    | true => exact Or.inl (by simpa using hbody)
    | false => exact Or.inr ⟨body, rfl, hbody⟩
  · exact Or.inl (isSignature_of_isChain (List.isChain_of_mem_splitBy h) hlength)

/-- Two groups of signatures never follow each other: they would be one group. -/
theorem isChain_groups (bodies : List Text) :
    (groups bodies).IsChain fun group next =>
      ¬((∀ body ∈ group, isSignature body = true) ∧ ∀ body ∈ next, isSignature body = true) := by
  refine (List.isChain_getLast_head_splitBy sharesTable bodies).imp ?_
  rintro group next ⟨hgroup, hnext, happart⟩ ⟨hall, hall'⟩
  simp [sharesTable, hall _ (List.getLast_mem hgroup), hall' _ (List.head_mem hnext)] at happart

end Body

namespace Snapshot

theorem Balanced.foldl_feed_layoutAfter {snapshot : Snapshot} (h : snapshot.Balanced)
    (settings : Settings) (bodies : List Text) :
    (bodies.foldl (Snapshot.feed settings) snapshot).Balanced ∧
      (bodies.foldl (Snapshot.feed settings) snapshot).block ++
          Signature.tableLines settings
            (bodies.foldl (Snapshot.feed settings) snapshot).signatures =
        snapshot.block ++ Body.layoutAfter settings snapshot.signatures bodies := by
  induction bodies generalizing snapshot with
  | nil => exact ⟨h, by simp [Body.layoutAfter_nil]⟩
  | cons body bodies ih =>
    obtain ⟨hbalanced, hblock⟩ := ih (h.feed settings body)
    exact ⟨hbalanced, hblock.trans (h.feed_layoutAfter settings body bodies)⟩

/-- The nesting level after some bodies is the last one that they announce. -/
theorem foldl_feed_frame (settings : Settings) (snapshot : Snapshot) (bodies : List Text) :
    ∃ blockTail blockSize signatureTail signatureCount, bodies.foldl (feed settings) snapshot =
      { snapshot with
        blockTail, blockSize, signatureTail, signatureCount
        depth := (bodies.filterMap Body.level?).getLastD snapshot.depth } := by
  induction bodies generalizing snapshot with
  | nil => exact ⟨_, _, _, _, rfl⟩
  | cons body bodies ih =>
    obtain ⟨_, _, _, _, hframe⟩ := feed_frame settings snapshot body
    obtain ⟨blockTail, blockSize, signatureTail, signatureCount, hrest⟩ :=
      ih (snapshot.feed settings body)
    have hdepth : ((body :: bodies).filterMap Body.level?).getLastD snapshot.depth =
        (bodies.filterMap Body.level?).getLastD ((Body.level? body).getD snapshot.depth) := by
      cases hlevel : Body.level? body with
      | none => rw [List.filterMap_cons_none hlevel, Option.getD_none]
      | some level => rw [List.filterMap_cons_some hlevel, List.getLastD_cons, Option.getD_some]
    refine ⟨blockTail, blockSize, signatureTail, signatureCount, ?_⟩
    rw [List.foldl_cons, hrest, hframe, hdepth]

end Snapshot

/-- Feeding bodies into a snapshot with matching counters and flushing it at the end adds one line
for each group of bodies. The signatures that were waiting are the first rows of the table that the
leading signatures stand in. Each body is in one group, in its place, and groups of signatures are
as large as they can be. Nothing else changes apart from the nesting level. -/
theorem bodies_become_lines (settings : Settings) (snapshot : Snapshot) (bodies : List Text)
    (hblock : snapshot.blockSize = snapshot.block.length)
    (hsignatures : snapshot.signatureCount = snapshot.signatures.length) :
    let leading := bodies.takeWhile Body.isSignature
    let groups := Body.groups (bodies.dropWhile Body.isSignature)
    let firstRows := snapshot.signatures.map Signature.cells ++
      leading.filterMap (Body.row? settings)
    let added :=
      (if firstRows = [] then [] else [Html.renderTable .code settings.tableClass firstRows]) ++
        groups.map (Body.groupLine settings)
    (bodies.foldl (Snapshot.feed settings) snapshot).flushSignatures settings =
        { snapshot with
          blockTail := snapshot.blockTail.append added
          blockSize := snapshot.blockSize + added.length
          signatureTail := .empty
          signatureCount := 0
          depth := (bodies.filterMap Body.level?).getLastD snapshot.depth } ∧
      leading ++ groups.flatten = bodies ∧
      (∀ group ∈ groups, group ≠ [] ∧ ((∀ body ∈ group, Body.isSignature body = true) ∨
        ∃ body, group = [body] ∧ Body.isSignature body = false)) ∧
      groups.IsChain fun group next => ¬((∀ body ∈ group, Body.isSignature body = true) ∧
        ∀ body ∈ next, Body.isSignature body = true) := by
  intro leading groups firstRows added
  have hadded : Body.layoutAfter settings snapshot.signatures bodies = added := by
    have hrows : firstRows = (snapshot.signatures ++
        Body.leadingSignatures settings bodies).map Signature.cells := by
      rw [List.map_append, Body.leadingSignatures, Body.map_cells_filterMap_ofBody?]
    rw [Body.layoutAfter, Body.layout_eq_map_groups]
    simp only [added, hrows, Signature.tableLines, Signature.table, List.map_eq_nil_iff]
    rfl
  obtain ⟨hbalanced, hlines⟩ :=
    Snapshot.Balanced.foldl_feed_layoutAfter ⟨hblock, hsignatures⟩ settings bodies
  obtain ⟨_, _, _, _, hframe⟩ := Snapshot.foldl_feed_frame settings snapshot bodies
  refine ⟨?_, ?_, fun group => Body.mem_groups_cases, Body.isChain_groups _⟩
  · rw [hadded] at hlines
    have htail : (bodies.foldl (Snapshot.feed settings) snapshot).blockTail.append
        (Signature.tableLines settings
          (bodies.foldl (Snapshot.feed settings) snapshot).signatures) =
          snapshot.blockTail.append added := by
      apply Chain.eq_of_items_eq
      rw [Chain.items_append, Chain.items_append]
      exact hlines
    rw [hbalanced.flushSignatures_eq, hlines, htail, hframe]
    simp [hblock]
  · rw [show groups.flatten = _ from List.flatten_splitBy _ _, List.takeWhile_append_dropWhile]

/-- A signature that was waiting shares its table with the first body. The empty body ends that
table, so the last two bodies share another one. -/
theorem bodies_become_lines_behind_signature :
    let snapshot : Snapshot :=
      { blockTail := .link .empty "a".toList, blockSize := 1
        signatureTail := .link .empty ⟨"f".toList, "::".toList, "A".toList⟩, signatureCount := 1 }
    let bodies := ["g::B".toList, "".toList, "+ x - n".toList, ":: C".toList, "h::D".toList]
    (snapshot.blockSize = snapshot.block.length ∧
        snapshot.signatureCount = snapshot.signatures.length) ∧
      ((bodies.foldl (Snapshot.feed {}) snapshot).flushSignatures {}).block =
        ["a".toList,
         Html.renderTable .code "sig".toList
           [["f".toList, "::".toList, "A".toList], ["g".toList, "::".toList, "B".toList]],
         "".toList, "+ `x` n".toList,
         Html.renderTable .code "sig".toList
           [["".toList, "::".toList, "C".toList], ["h".toList, "::".toList, "D".toList]]] := by
  intro snapshot bodies
  have h := (bodies_become_lines {} snapshot bodies rfl rfl).1
  exact ⟨⟨rfl, rfl⟩, (congrArg Snapshot.block h).trans (by decide +kernel)⟩

end SlashDoc
