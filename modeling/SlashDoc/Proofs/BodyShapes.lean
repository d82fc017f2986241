import Mathlib.Data.Set.Subsingleton
import SlashDoc.Extraction.Step
import SlashDoc.Proofs.TextPieces

/-!
# How the bodies of signatures and parameters are cut

Most parts of a body end where the next one has to begin, so they are the same in every cut. Only
the blanks in front of a type or a description can be cut in more than one way; all of them are left
out of it. The two kinds of signatures share no body.
-/
namespace SlashDoc

open Text

/-- A reader that accepts a body exactly if it can be cut into parts that fit, and that reads the
parts of one particular cut. -/
structure ReadsOneCut {α : Type} (read : Text → Option α) (Reads Fits : α → Text → Text → Prop)
    (body : Text) : Prop where
  some_iff : ∀ found, read body = some found ↔ ∃ tail, Reads found body tail
  accepts_iff : (∃ found, read body = some found) ↔ ∃ found tail, Fits found body tail
  unique : {found | ∃ tail, Reads found body tail}.Subsingleton

theorem readsOneCut {α : Type} {read : Text → Option α} {Reads Fits : α → Text → Text → Prop}
    {body : Text} (hsome : ∀ found, read body = some found ↔ ∃ tail, Reads found body tail)
    (hreads : ∀ found tail, Reads found body tail → Fits found body tail)
    (hfits : ∀ found tail, Fits found body tail → read body ≠ none) :
    ReadsOneCut read Reads Fits body := by
  refine ⟨hsome, ⟨?_, ?_⟩, ?_⟩
  · rintro ⟨found, hfound⟩
    obtain ⟨tail, htail⟩ := (hsome found).mp hfound
    exact ⟨found, tail, hreads found tail htail⟩
  · rintro ⟨found, tail, htail⟩
    exact Option.ne_none_iff_exists'.mp (hfits found tail htail)
  · intro found hfound other hother
    have heq := ((hsome found).mpr hfound).symm.trans ((hsome other).mpr hother)
    exact Option.some.inj heq

namespace NamedSignature

structure Fits (found : NamedSignature) (body tail : Text) : Prop where
  body_eq : body = found.indent ++ found.name ++ found.gap ++ "::".toList ++ tail
  indent : ∀ c ∈ found.indent, isBlank c = true
  name_ne_nil : found.name ≠ []
  name : ∀ c ∈ found.name, isNameChar c = true
  gap : ∀ c ∈ found.gap, isBlank c = true
  type : EndsLine found.type tail

structure Reads (found : NamedSignature) (body tail : Text) : Prop extends
    Fits found body tail where
  name_run : MaximalRun isNameChar found.name (found.gap ++ "::".toList)

variable {found : NamedSignature} {body tail : Text}

theorem isBlank_of_isNameChar {c : Char} (h : isNameChar c = true) : isBlank c = false := by
  simp only [isNameChar, Bool.and_eq_true, Bool.not_eq_true'] at h
  exact h.1

theorem Fits.reads (h : found.Fits body tail) : found.Reads body tail := by
  refine ⟨h, ?_⟩
  cases hgap : found.gap with
  | nil => exact maximalRun_of_head? h.name rfl (by decide)
  | cons c gap =>
    have hblank := h.gap c (by simp [hgap])
    exact maximalRun_of_head? h.name rfl (by simp [isNameChar, hblank])

theorem Fits.ofBody?_eq (h : found.Fits body tail) : ofBody? body = some found := by
  obtain ⟨spaced, hspaced⟩ : ∃ spaced, spaced = found.gap ++ ("::".toList ++ tail) := ⟨_, rfl⟩
  have hbody : body = found.indent ++ (found.name ++ spaced) := by
    rw [h.body_eq, hspaced]
    simp only [List.append_assoc]
  have hindent : MaximalRun isBlank found.indent (found.name ++ spaced) := by
    obtain ⟨c, name, hcons⟩ := List.exists_cons_of_ne_nil h.name_ne_nil
    have hblank := isBlank_of_isNameChar (h.name c (by simp [hcons]))
    exact maximalRun_of_head? h.indent (by rw [hcons]; rfl) hblank
  have hname : MaximalRun isNameChar found.name spaced := by
    rw [hspaced, ← List.append_assoc]
    exact h.reads.name_run.append (by simp) tail
  have hgap : MaximalRun isBlank found.gap ("::".toList ++ tail) :=
    maximalRun_of_head? h.gap rfl (by decide)
  unfold ofBody?
  simp only [hindent.takeWhile_eq hbody, hindent.dropWhile_eq hbody, hname.takeWhile_eq rfl,
    hname.dropWhile_eq rfl, hgap.takeWhile_eq hspaced, hgap.dropWhile_eq hspaced, after?_append,
    singleLine?_eq_some_iff.mpr h.type, Option.bind_eq_bind, Option.bind_some,
    if_neg h.name_ne_nil]

theorem ofBody?_eq_some_iff : ofBody? body = some found ↔ ∃ tail, found.Fits body tail := by
  constructor
  · intro h
    simp only [ofBody?, Option.bind_eq_bind, Option.bind_eq_some_iff] at h
    obtain ⟨rest, hrest, type, htype, hname⟩ := h
    rw [after?_eq_some_iff] at hrest
    split at hname
    · cases hname
    · rename_i hne
      obtain rfl := Option.some.inj hname
      refine ⟨rest, ?_, ?_, hne, ?_, ?_, singleLine?_eq_some_iff.mp htype⟩
      · simp only [List.append_assoc]
        rw [takeWhile_append_of_dropWhile hrest, takeWhile_append_of_dropWhile rfl,
          takeWhile_append_of_dropWhile rfl]
      all_goals
        intro c hc
        exact List.mem_takeWhile_imp hc
  · rintro ⟨tail, h⟩
    exact h.ofBody?_eq

theorem readsOneCut (body : Text) : ReadsOneCut ofBody? Reads Fits body := by
  apply SlashDoc.readsOneCut
  · intro found
    rw [ofBody?_eq_some_iff]
    exact ⟨fun ⟨tail, h⟩ => ⟨tail, h.reads⟩, fun ⟨tail, h⟩ => ⟨tail, h.toFits⟩⟩
  · intro found tail h
    exact h.toFits
  · intro found tail h
    rw [h.ofBody?_eq]
    exact Option.some_ne_none found

end NamedSignature

namespace UnnamedSignature

structure Fits (found : UnnamedSignature) (body tail : Text) : Prop where
  body_eq : body = found.indent ++ "::".toList ++ found.gap ++ tail
  indent : ∀ c ∈ found.indent, isBlank c = true
  gap : ∀ c ∈ found.gap, isBlank c = true
  type : EndsLine found.type tail

structure Reads (found : UnnamedSignature) (body tail : Text) : Prop extends
    Fits found body tail where
  gap_run : MaximalRun isBlank found.gap tail

variable {found : UnnamedSignature} {body tail : Text}

/-- Without the blanks in front of the type there is only one cut. -/
theorem Fits.ofBody?_eq (h : found.Fits body tail) :
    ofBody? body = (singleLine? (tail.dropWhile isBlank)).map fun type =>
      ⟨found.indent, found.gap ++ tail.takeWhile isBlank, type⟩ := by
  have hbody : body = found.indent ++ ("::".toList ++ (found.gap ++ tail)) := by
    rw [h.body_eq]
    simp only [List.append_assoc]
  have hindent : MaximalRun isBlank found.indent ("::".toList ++ (found.gap ++ tail)) :=
    maximalRun_of_head? h.indent rfl (by decide)
  unfold ofBody?
  simp only [hindent.takeWhile_eq hbody, hindent.dropWhile_eq hbody, after?_append,
    List.takeWhile_append_of_pos h.gap, List.dropWhile_append_of_pos h.gap, Option.bind_eq_bind,
    Option.bind_some]
  cases singleLine? (tail.dropWhile isBlank) <;> rfl

theorem ofBody?_eq_some_iff : ofBody? body = some found ↔ ∃ tail, found.Reads body tail := by
  constructor
  · intro h
    simp only [ofBody?, Option.bind_eq_bind, Option.bind_eq_some_iff] at h
    obtain ⟨spaced, hspaced, type, htype, hfound⟩ := h
    rw [after?_eq_some_iff] at hspaced
    obtain rfl := Option.some.inj hfound
    have hrun := maximalRun_takeWhile isBlank spaced
    refine ⟨spaced.dropWhile isBlank, ⟨?_, ?_, hrun.all, singleLine?_eq_some_iff.mp htype⟩, hrun⟩
    · simp only [List.append_assoc]
      rw [takeWhile_append_of_dropWhile rfl, takeWhile_append_of_dropWhile hspaced]
    · intro c hc
      exact List.mem_takeWhile_imp hc
  · rintro ⟨tail, h, hgap⟩
    rw [h.ofBody?_eq, hgap.takeWhile_rest, hgap.dropWhile_rest,
      singleLine?_eq_some_iff.mpr h.type, List.append_nil]
    rfl

theorem readsOneCut (body : Text) : ReadsOneCut ofBody? Reads Fits body := by
  apply SlashDoc.readsOneCut
  · intro found
    exact ofBody?_eq_some_iff
  · intro found tail h
    exact h.toFits
  · intro found tail h
    obtain ⟨type, htype⟩ := h.type.suffix (List.dropWhile_suffix isBlank)
    rw [h.ofBody?_eq, singleLine?_eq_some_iff.mpr htype]
    exact Option.some_ne_none _

end UnnamedSignature

namespace Parameter

structure Fits (found : Parameter) (body tail : Text) : Prop where
  body_eq : body = found.indent ++ [found.marker] ++ found.gap ++ found.name ++ found.beforeDash ++
    ['-'] ++ found.afterDash ++ tail
  indent : ∀ c ∈ found.indent, isBlank c = true
  marker : found.marker = '*' ∨ found.marker = '+' ∨ found.marker = '-'
  gap : ∀ c ∈ found.gap, isBlank c = true
  name_ne_nil : found.name ≠ []
  name : ∀ c ∈ found.name, isBlank c = false
  beforeDash_ne_nil : found.beforeDash ≠ []
  beforeDash : ∀ c ∈ found.beforeDash, isBlank c = true
  afterDash_ne_nil : found.afterDash ≠ []
  afterDash : ∀ c ∈ found.afterDash, isBlank c = true
  description : EndsLine found.description tail

structure Reads (found : Parameter) (body tail : Text) : Prop extends Fits found body tail where
  name_run : MaximalRun (!isBlank ·) found.name found.beforeDash
  afterDash_run : MaximalRun isBlank found.afterDash tail

variable {found : Parameter} {body tail : Text}

theorem isMarker_iff {c : Char} : isMarker c = true ↔ c = '*' ∨ c = '+' ∨ c = '-' := by
  simp [isMarker, or_assoc]

theorem isBlank_of_isMarker {c : Char} (h : isMarker c = true) : isBlank c = false := by
  rcases isMarker_iff.mp h with rfl | rfl | rfl <;> decide

theorem Fits.name_run (h : found.Fits body tail) :
    MaximalRun (!isBlank ·) found.name found.beforeDash := by
  obtain ⟨c, beforeDash, hcons⟩ := List.exists_cons_of_ne_nil h.beforeDash_ne_nil
  have hblank := h.beforeDash c (by simp [hcons])
  refine maximalRun_of_head? ?_ (by rw [hcons]; rfl) (by simp [hblank])
  intro d hd
  simp [h.name d hd]

/-- Without the blanks in front of the description there is only one cut. -/
theorem Fits.ofBody?_eq (h : found.Fits body tail) :
    ofBody? body = (singleLine? (tail.dropWhile isBlank)).map fun description =>
      { found with afterDash := found.afterDash ++ tail.takeWhile isBlank, description } := by
  obtain ⟨dashed, hdashed⟩ : ∃ dashed, dashed = found.afterDash ++ tail := ⟨_, rfl⟩
  obtain ⟨spaced, hspaced⟩ : ∃ spaced, spaced = found.beforeDash ++ '-' :: dashed := ⟨_, rfl⟩
  obtain ⟨rest, hrest⟩ : ∃ rest, rest = found.gap ++ (found.name ++ spaced) := ⟨_, rfl⟩
  have hmarker := isMarker_iff.mpr h.marker
  have hbody : body = found.indent ++ found.marker :: rest := by
    simp [h.body_eq, hrest, hspaced, hdashed]
  have hindent : MaximalRun isBlank found.indent (found.marker :: rest) :=
    maximalRun_of_head? h.indent rfl (isBlank_of_isMarker hmarker)
  have hgap : MaximalRun isBlank found.gap (found.name ++ spaced) := by
    obtain ⟨c, name, hcons⟩ := List.exists_cons_of_ne_nil h.name_ne_nil
    exact maximalRun_of_head? h.gap (by rw [hcons]; rfl) (h.name c (by simp [hcons]))
  have hname : MaximalRun (!isBlank ·) found.name spaced := by
    rw [hspaced]
    exact h.name_run.append h.beforeDash_ne_nil ('-' :: dashed)
  have hbefore : MaximalRun isBlank found.beforeDash ('-' :: dashed) :=
    maximalRun_of_head? h.beforeDash rfl (by decide)
  have hdash : after? ['-'] ('-' :: dashed) = some dashed := after?_append ['-'] dashed
  have htake : dashed.takeWhile isBlank = found.afterDash ++ tail.takeWhile isBlank := by
    rw [hdashed, List.takeWhile_append_of_pos h.afterDash]
  have hdrop : dashed.dropWhile isBlank = tail.dropWhile isBlank := by
    rw [hdashed, List.dropWhile_append_of_pos h.afterDash]
  unfold ofBody?
  simp only [hindent.takeWhile_eq hbody, hindent.dropWhile_eq hbody, if_pos hmarker, afterMarker?,
    hgap.takeWhile_eq hrest, hgap.dropWhile_eq hrest, hname.takeWhile_eq rfl,
    hname.dropWhile_eq rfl, hbefore.takeWhile_eq hspaced, hbefore.dropWhile_eq hspaced, hdash,
    htake, hdrop, Option.bind_eq_bind, Option.bind_some]
  cases singleLine? (tail.dropWhile isBlank) <;>
    simp [h.name_ne_nil, h.beforeDash_ne_nil, h.afterDash_ne_nil]

theorem exists_reads_of_afterMarker? {c : Char} {rest : Text}
    (hmarked : body.dropWhile isBlank = c :: rest) (hmarker : isMarker c = true)
    (h : afterMarker? (body.takeWhile isBlank) c rest = some found) :
    ∃ tail, found.Reads body tail := by
  simp only [afterMarker?, Option.bind_eq_bind, Option.bind_eq_some_iff] at h
  obtain ⟨dashed, hdashed, description, hdescription, hfound⟩ := h
  rw [after?_eq_some_iff] at hdashed
  split at hfound
  · cases hfound
  · rename_i hne
    simp only [Bool.or_eq_true, decide_eq_true_eq, not_or] at hne
    obtain ⟨⟨hname, hbefore⟩, hafter⟩ := hne
    have hrun := maximalRun_takeWhile isBlank dashed
    have hfits : found.Fits body (dashed.dropWhile isBlank) := by
      obtain rfl := Option.some.inj hfound
      refine ⟨?_, ?_, isMarker_iff.mp hmarker, ?_, hname, ?_, hbefore, ?_, hafter, hrun.all,
        singleLine?_eq_some_iff.mp hdescription⟩
      · simp only [List.append_assoc]
        rw [takeWhile_append_of_dropWhile rfl, takeWhile_append_of_dropWhile hdashed,
          takeWhile_append_of_dropWhile rfl, takeWhile_append_of_dropWhile rfl,
          List.singleton_append, takeWhile_append_of_dropWhile hmarked]
      · intro d hd
        exact List.mem_takeWhile_imp hd
      · intro d hd
        exact List.mem_takeWhile_imp hd
      · intro d hd
        simpa using List.mem_takeWhile_imp hd
      · intro d hd
        exact List.mem_takeWhile_imp hd
    refine ⟨_, hfits, hfits.name_run, ?_⟩
    obtain rfl := Option.some.inj hfound
    exact hrun

theorem ofBody?_eq_some_iff : ofBody? body = some found ↔ ∃ tail, found.Reads body tail := by
  constructor
  · intro h
    unfold ofBody? at h
    split at h
    · cases h
    · rename_i c rest hmarked
      split at h
      · rename_i hmarker
        exact exists_reads_of_afterMarker? hmarked hmarker h
      · cases h
  · rintro ⟨tail, h, -, hafter⟩
    rw [h.ofBody?_eq, hafter.takeWhile_rest, hafter.dropWhile_rest,
      singleLine?_eq_some_iff.mpr h.description, List.append_nil]
    rfl

theorem readsOneCut (body : Text) : ReadsOneCut ofBody? Reads Fits body := by
  apply SlashDoc.readsOneCut
  · intro found
    exact ofBody?_eq_some_iff
  · intro found tail h
    exact h.toFits
  · intro found tail h
    obtain ⟨description, hdescription⟩ := h.description.suffix (List.dropWhile_suffix isBlank)
    rw [h.ofBody?_eq, singleLine?_eq_some_iff.mpr hdescription]
    exact Option.some_ne_none _

end Parameter

theorem NamedSignature.Fits.exists_dropWhile {found : NamedSignature} {body tail : Text}
    (h : found.Fits body tail) :
    ∃ c rest, body.dropWhile isBlank = c :: rest ∧ isNameChar c = true := by
  obtain ⟨c, name, hcons⟩ := List.exists_cons_of_ne_nil h.name_ne_nil
  have hchar := h.name c (by simp [hcons])
  refine ⟨c, name ++ (found.gap ++ ("::".toList ++ tail)), ?_, hchar⟩
  apply (maximalRun_of_head? h.indent rfl (isBlank_of_isNameChar hchar)).dropWhile_eq
  rw [h.body_eq, hcons]
  simp only [List.append_assoc, List.cons_append]

theorem UnnamedSignature.Fits.exists_dropWhile {found : UnnamedSignature} {body tail : Text}
    (h : found.Fits body tail) : ∃ rest, body.dropWhile isBlank = ':' :: rest := by
  refine ⟨':' :: (found.gap ++ tail), ?_⟩
  apply (maximalRun_of_head? h.indent rfl (by decide)).dropWhile_eq
  rw [h.body_eq]
  simp

/-- The first character behind the blanks tells the two kinds of signatures apart. -/
theorem NamedSignature.Fits.not_unnamed {found : NamedSignature} {other : UnnamedSignature}
    {body tail rest : Text} (h : found.Fits body tail) : ¬other.Fits body rest := by
  intro hother
  obtain ⟨c, named, hnamed, hchar⟩ := h.exists_dropWhile
  obtain ⟨unnamed, hunnamed⟩ := hother.exists_dropWhile
  obtain ⟨rfl, -⟩ := List.cons.inj (hnamed.symm.trans hunnamed)
  exact absurd hchar (by decide)

abbrev SignatureRule := Text → Option (Text × Text)

def NamedSignature.rule : SignatureRule := fun body =>
  (ofBody? body).map fun found => (found.name, found.type)

def UnnamedSignature.rule : SignatureRule := fun body =>
  (ofBody? body).map fun found => ([], found.type)

namespace Snapshot

/-- Adds a body to the open block, as a signature if one of the rules reads it, the first of them
deciding. -/
def feedBy (rules : List SignatureRule) (settings : Settings) (snapshot : Snapshot) (body : Text) :
    Snapshot :=
  match rules.findSome? (· body) with
  | some (name, type) => snapshot.addSignature ⟨name, settings.separator, type⟩
  | none =>
    match Parameter.ofBody? body, Header.depth? body with
    | some found, _ => (snapshot.flushSignatures settings).addLine found.item
    | none, some depth => { snapshot.flushSignatures settings with depth }.addLine body
    | none, none => (snapshot.flushSignatures settings).addLine body

theorem feedBy_eq_feed {rules : List SignatureRule} {body : Text}
    (h : rules.findSome? (· body) = Body.signature? body) (settings : Settings)
    (snapshot : Snapshot) : snapshot.feedBy rules settings body = snapshot.feed settings body := by
  rw [feedBy, feed, Body.classify, h]
  cases Body.signature? body with
  | some found => rfl
  | none => cases Parameter.ofBody? body <;> cases Header.depth? body <;> rfl

end Snapshot

theorem Body.signature?_eq_findSome? (body : Text) :
    [NamedSignature.rule, UnnamedSignature.rule].findSome? (· body) = signature? body ∧
      [UnnamedSignature.rule, NamedSignature.rule].findSome? (· body) = signature? body := by
  cases hnamed : NamedSignature.ofBody? body with
  | none =>
    cases hunnamed : UnnamedSignature.ofBody? body <;>
      simp [signature?, NamedSignature.rule, UnnamedSignature.rule, hnamed, hunnamed]
  | some found =>
    have hunnamed : UnnamedSignature.ofBody? body = none := by
      obtain ⟨tail, hfits⟩ := NamedSignature.ofBody?_eq_some_iff.mp hnamed
      rw [Option.eq_none_iff_forall_ne_some]
      intro other hother
      obtain ⟨rest, hreads⟩ := UnnamedSignature.ofBody?_eq_some_iff.mp hother
      exact hfits.not_unnamed hreads.toFits
    simp [signature?, NamedSignature.rule, UnnamedSignature.rule, hnamed, hunnamed]

/-- A body is read as a signature or a parameter exactly if it can be cut into the parts of one, and
then by the one cut in which the name and the blanks in front of the last part are as long as
possible. No body can be cut into both kinds of signatures, so their order does not matter. -/
theorem bodies_read_by_one_cut (body : Text) :
    ReadsOneCut NamedSignature.ofBody? NamedSignature.Reads NamedSignature.Fits body ∧
      ReadsOneCut UnnamedSignature.ofBody? UnnamedSignature.Reads UnnamedSignature.Fits body ∧
      ReadsOneCut Parameter.ofBody? Parameter.Reads Parameter.Fits body ∧
      ¬((∃ found tail, NamedSignature.Fits found body tail) ∧
        ∃ found tail, UnnamedSignature.Fits found body tail) ∧
      ∀ (settings : Settings) (snapshot : Snapshot),
        snapshot.feedBy [NamedSignature.rule, UnnamedSignature.rule] settings body =
            snapshot.feed settings body ∧
          snapshot.feedBy [UnnamedSignature.rule, NamedSignature.rule] settings body =
            snapshot.feed settings body := by
  refine ⟨NamedSignature.readsOneCut body, UnnamedSignature.readsOneCut body,
    Parameter.readsOneCut body, ?_, ?_⟩
  · rintro ⟨⟨found, tail, hnamed⟩, other, rest, hunnamed⟩
    exact hnamed.not_unnamed hunnamed
  · intro settings snapshot
    obtain ⟨hgiven, hswapped⟩ := Body.signature?_eq_findSome? body
    exact ⟨Snapshot.feedBy_eq_feed hgiven settings snapshot,
      Snapshot.feedBy_eq_feed hswapped settings snapshot⟩

end SlashDoc
