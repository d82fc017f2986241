import Mathlib.Data.List.Chain
import SlashDoc.Page.Template

/-!
# Templates as texts with slots

A template is a text with slots: places for values, which may be marked as safe, and comments. Its
page has the same texts, and in the place of each slot what the slot shows. What a template engine
has to do for that is said one slot at a time, as the laws of `Engine.Lawful`; the page of a whole
template follows by induction on its slots.
-/
namespace SlashDoc

open Text

def markEnds : Text := ['\x7b', '%', '#']

def OpensNone (text : Text) : Prop :=
  ∀ c ∈ markEnds, ¬['\x7b', c] <:+: text

theorem opensNone_of_notMem {text : Text} (h : '\x7b' ∉ text) : OpensNone text := by
  intro c hc hwithin
  exact h (hwithin.subset List.mem_cons_self)

theorem opensNone_of_isChain {text : Text}
    (h : text.IsChain fun c d => c = '\x7b' → d ∉ markEnds) : OpensNone text := by
  rintro c hc ⟨front, back, rfl⟩
  have hmark : List.IsChain (fun c d => c = '\x7b' → d ∉ markEnds) ['\x7b', c] :=
    List.IsChain.infix h ⟨front, back, rfl⟩
  exact List.isChain_pair.mp hmark rfl hc

/-- A mark that begins in a text lies in it as a whole, unless the text ends in an open brace. -/
theorem mark_within_of_append {text later front back : Text} {c : Char}
    (hlast : text.getLast? ≠ some '\x7b') (hlength : front.length < text.length)
    (h : text ++ later = front ++ '\x7b' :: c :: back) : ['\x7b', c] <:+: text := by
  obtain ⟨middle, rfl, -⟩ | ⟨middle, rfl, hmiddle⟩ := List.append_eq_append_iff.mp h
  · rw [List.length_append] at hlength
    omega
  · rcases middle with _ | ⟨d, _ | ⟨e, middle⟩⟩
    · simp at hlength
    · obtain ⟨rfl, -⟩ := List.cons.inj hmiddle
      exact absurd (List.getLast?_concat ..) hlast
    · obtain ⟨rfl, htail⟩ := List.cons.inj hmiddle
      obtain ⟨rfl, -⟩ := List.cons.inj htail
      exact ⟨front, middle, by simp⟩

theorem OpensNone.append {text later : Text} (h : OpensNone text)
    (hlast : text.getLast? ≠ some '\x7b') (hlater : OpensNone later) :
    OpensNone (text ++ later) := by
  rintro c hc ⟨front, back, hwithin⟩
  rw [List.append_assoc] at hwithin
  by_cases hlength : front.length < text.length
  · exact h c hc (mark_within_of_append hlast hlength hwithin.symm)
  · obtain ⟨middle, rfl⟩ : text <+: front :=
      List.prefix_of_prefix_length_le ⟨later, rfl⟩ ⟨_, hwithin⟩ (by omega)
    rw [List.append_assoc] at hwithin
    exact hlater c hc ⟨middle, back, by simpa using List.append_cancel_left hwithin⟩

/-- The place of a value in a template: its name between blanks. The word that marks it as safe may
stand behind a bar, between blanks of its own. -/
structure Placeholder where
  before : Text
  name : Text
  after : Text
  safe : Option (Text × Text)
  deriving DecidableEq, Repr

namespace Placeholder

def ending (place : Placeholder) : Text :=
  match place.safe with
  | none => ['\x7d', '\x7d']
  | some (front, back) => '|' :: (front ++ ("safe".toList ++ (back ++ ['\x7d', '\x7d'])))

def source (place : Placeholder) : Text :=
  '\x7b' :: '\x7b' :: (place.before ++ (place.name ++ (place.after ++ place.ending)))

structure Valid (unset : Text → Prop) (place : Placeholder) : Prop where
  before : ∀ c ∈ place.before, isBlank c = true
  name : isIdentifier place.name = true
  known : place.name = "body".toList ∨ place.name = "file".toList ∨ unset place.name
  after : ∀ c ∈ place.after, isBlank c = true
  safe : ∀ blanks ∈ place.safe, ∀ c ∈ blanks.1 ++ blanks.2, isBlank c = true

end Placeholder

inductive Slot where
  | comment (content : Text)
  | value (place : Placeholder)
  deriving DecidableEq, Repr

namespace Slot

def source : Slot → Text
  | comment content => '\x7b' :: '#' :: (content ++ ['#', '\x7d'])
  | value place => place.source

/-- A comment ends at the first mark that can end one, and no minus sign next to its marks takes
away the blanks around it. -/
def Valid (unset : Text → Prop) : Slot → Prop
  | comment content =>
    ¬['#', '\x7d'] <:+: content ∧ content.head? ≠ some '-' ∧ content.getLast? ≠ some '-'
  | value place => place.Valid unset

/-- The names of the two values are identifiers, so only the blanks of their slots are left to
check. -/
theorem valid_value {unset : Text → Prop} {place : Placeholder}
    (hname : place.name = "body".toList ∨ place.name = "file".toList)
    (hblanks : (place.before ++ place.after).all isBlank = true)
    (hsafe : ∀ blanks ∈ place.safe, (blanks.1 ++ blanks.2).all isBlank = true) :
    (value place).Valid unset := by
  have haround := List.all_eq_true.mp hblanks
  refine ⟨fun c hc => haround c (List.mem_append_left _ hc), ?_, ?_,
    fun c hc => haround c (List.mem_append_right _ hc),
    fun blanks hmem => List.all_eq_true.mp (hsafe blanks hmem)⟩
  · rcases hname with h | h
    · rw [h]
      decide +kernel
    · rw [h]
      decide +kernel
  · rcases hname with h | h
    · exact .inl h
    · exact .inr (.inl h)

def shown (escapes : Bool) (body file : Text) : Slot → Text
  | comment _ => []
  | value place =>
    if escapes && place.safe.isNone then Html.escapeValue (Template.valueOf body file place.name)
    else Template.valueOf body file place.name

end Slot

/-- What is relied on of a template engine. A text without marks stays as it is; a slot, with the
text in front of it, can be put before any template that makes a page. The names of `unset` have no
value in any template. -/
structure Engine.Lawful (engine : Engine) (unset : Text → Prop) : Prop where
  text : ∀ {content}, OpensNone content → '\r' ∉ content → ∀ tree path escapes body file,
    engine.render tree path escapes content body file = .ok content
  slot : ∀ {lead : Text} {slot : Slot} {rest : Text}, OpensNone lead →
    lead.getLast? ≠ some '\x7b' → slot.Valid unset → '\r' ∉ lead ++ slot.source →
    ∀ tree path escapes body file page,
      engine.render tree path escapes rest body file = .ok page →
      engine.render tree path escapes (lead ++ (slot.source ++ rest)) body file =
        .ok (lead ++ (slot.shown escapes body file ++ page))

structure Layout where
  lead : Text
  slots : List (Slot × Text)
  deriving DecidableEq, Repr

namespace Layout

variable {unset : Text → Prop} {lead text : Text} {slot : Slot} {slots : List (Slot × Text)}

def source (layout : Layout) : Text :=
  layout.lead ++ layout.slots.flatMap fun (slot, text) => slot.source ++ text

def page (layout : Layout) (escapes : Bool) (body file : Text) : Text :=
  layout.lead ++ layout.slots.flatMap fun (slot, text) => slot.shown escapes body file ++ text

structure Valid (unset : Text → Prop) (layout : Layout) : Prop where
  slots : ∀ slot text, (slot, text) ∈ layout.slots → slot.Valid unset
  texts : ∀ text ∈ layout.lead :: layout.slots.map Prod.snd, OpensNone text
  before : ∀ text ∈ (layout.lead :: layout.slots.map Prod.snd).dropLast, text.getLast? ≠ some '\x7b'

theorem source_cons (lead text : Text) (slot : Slot) (slots : List (Slot × Text)) :
    source ⟨lead, (slot, text) :: slots⟩ = lead ++ (slot.source ++ source ⟨text, slots⟩) := by
  simp [source]

theorem page_cons (lead text : Text) (slot : Slot) (slots : List (Slot × Text)) (escapes : Bool)
    (body file : Text) :
    page ⟨lead, (slot, text) :: slots⟩ escapes body file =
      lead ++ (slot.shown escapes body file ++ page ⟨text, slots⟩ escapes body file) := by
  simp [page]

/-- The text behind the first slot leads the rest of a template. -/
theorem Valid.tail (h : Valid unset ⟨lead, (slot, text) :: slots⟩) : Valid unset ⟨text, slots⟩ := by
  refine ⟨?_, ?_, ?_⟩
  · intro later back hmem
    exact h.slots later back (List.mem_cons_of_mem _ hmem)
  · intro later hmem
    exact h.texts later (List.mem_cons_of_mem _ hmem)
  · intro later hmem
    exact h.before later (List.mem_cons_of_mem _ hmem)

theorem render_source {engine : Engine} (hengine : engine.Lawful unset) {layout : Layout}
    (h : layout.Valid unset) (hreturn : '\r' ∉ layout.source) (tree : FileTree) (path : Path)
    (escapes : Bool) (body file : Text) :
    engine.render tree path escapes layout.source body file =
      .ok (layout.page escapes body file) := by
  obtain ⟨lead, slots⟩ := layout
  induction slots generalizing lead with
  | nil =>
    have htext := hengine.text (h.texts lead (by simp)) (by simpa [source] using hreturn)
      tree path escapes body file
    simpa [source, page] using htext
  | cons slot slots ih =>
    obtain ⟨slot, text⟩ := slot
    rw [source_cons, ← List.append_assoc, List.mem_append, not_or] at hreturn
    rw [source_cons, page_cons]
    exact hengine.slot (h.texts lead (by simp)) (h.before lead (by simp))
      (h.slots slot text (by simp)) hreturn.1 tree path escapes body file _
      (ih text h.tail hreturn.2)

end Layout

end SlashDoc
