import Mathlib.Data.List.Basic
import SlashDoc.Proofs.LineBreaks
import SlashDoc.Proofs.TableReading
import SlashDoc.Proofs.TemplateEngine

/-!
# Pages from templates

What a lawful engine makes of a template with slots. The ending of the template's name decides
whether values are escaped. Where they are, the name of a file brings markup to the page only by a
slot that marks it as safe; where they are not, it stands in the page as it is.
-/
namespace SlashDoc

open Text

namespace Html

theorem isMarkup_of_mem_pageEntity {c d : Char} (h : d ∈ pageEntity c) : isMarkup d = false := by
  have hall : (pageEntity c).all (!isMarkup ·) = true := by
    unfold pageEntity
    split
    · decide
    · decide
    · decide
    · decide
    · decide
    · rename_i hless hgreater _ hquote
      simpa [isMarkup] using ⟨⟨hless, hgreater⟩, hquote⟩
  simpa using List.all_eq_true.mp hall d h

theorem isMarkup_of_mem_escapeValue {text : Text} {d : Char} (h : d ∈ escapeValue text) :
    isMarkup d = false := by
  obtain ⟨c, -, hc⟩ := List.mem_flatMap.mp h
  exact isMarkup_of_mem_pageEntity hc

theorem filter_isMarkup_escapeValue (text : Text) : (escapeValue text).filter isMarkup = [] := by
  rw [List.filter_eq_nil_iff]
  intro c hc
  simp [isMarkup_of_mem_escapeValue hc]

end Html

theorem Template.valueOf_of_ne {name : Text} (h : name ≠ "file".toList) (body file other : Text) :
    valueOf body file name = valueOf body other name := by
  unfold valueOf
  simp only [if_neg h]

def Slot.TrustsFile : Slot → Prop
  | comment _ => False
  | value place => place.name = "file".toList ∧ place.safe ≠ none

/-- Escaped, the name of the file brings no markup to its slots, and the other slots do not
depend on it. -/
theorem Slot.filter_shown {slot : Slot} (h : ¬slot.TrustsFile) (body file other : Text) :
    (slot.shown true body file).filter Html.isMarkup =
      (slot.shown true body other).filter Html.isMarkup := by
  cases slot with
  | comment content => rfl
  | value place =>
    cases hsafe : place.safe with
    | none => simp [shown, hsafe, Html.filter_isMarkup_escapeValue]
    | some blanks =>
      have hname : place.name ≠ "file".toList := fun hname => h ⟨hname, by simp [hsafe]⟩
      rw [shown, shown, Template.valueOf_of_ne hname body file other, hsafe]

theorem Layout.filter_page {layout : Layout}
    (h : ∀ slot text, (slot, text) ∈ layout.slots → ¬slot.TrustsFile) (body file other : Text) :
    (layout.page true body file).filter Html.isMarkup =
      (layout.page true body other).filter Html.isMarkup := by
  simp only [page, List.filter_append, List.filter_flatMap]
  congr 1
  apply List.flatMap_congr
  rintro ⟨slot, text⟩ hslot
  rw [Slot.filter_shown (h slot text hslot) body file other]

theorem Template.escapesFor_iff {name : Text} :
    escapesFor name = true ↔ ∃ ending ∈ [".html", ".html.j2", ".htm"],
      ending.toList <:+ name.map Char.toLower := by
  simp [escapesFor, escapedEndings]

theorem return_notMem_of_templateText {tree : FileTree} {path : Path} {source : Text}
    (h : templateText tree path = .ok source) : '\r' ∉ source := by
  unfold templateText at h
  split at h
  · cases h
  · split at h
    · cases h
    · cases h
    · split at h
      · cases h
      · obtain rfl := Except.ok.inj h
        exact Line.return_notMem_normalise _

theorem renderPage_of_layout {engine : Engine} {unset : Text → Prop}
    (hengine : engine.Lawful unset) {layout : Layout} (hvalid : layout.Valid unset)
    {tree : FileTree} {path : Path} (htext : templateText tree path = .ok layout.source)
    (body file : Text) :
    renderPage engine tree (some path) body file =
      .ok (layout.page (Template.escapesFor path.name) body file) := by
  have hpage := layout.render_source hengine hvalid (return_notMem_of_templateText htext) tree path
    (Template.escapesFor path.name) body file
  simp only [renderPage, templateSource, htext, bind, Except.bind, Option.getD_some, hpage,
    Except.mapError]

/-- Every template with slots makes a page that has in the place of each slot what it shows. A slot
for the document that marks it as safe shows the document. A slot for the name of the file shows it
escaped exactly where the template's name has one of three endings, in any letter case; then the
name brings no markup to the page, unless a slot marks it as safe. Elsewhere it shows it as it
is. -/
theorem template_pages_fill_slots {engine : Engine} {unset : Text → Prop}
    (hengine : engine.Lawful unset) {layout : Layout} (hvalid : layout.Valid unset)
    {tree : FileTree} {path : Path} (htext : templateText tree path = .ok layout.source) :
    let Escaped := ∃ ending ∈ [".html", ".html.j2", ".htm"],
      ending.toList <:+ path.name.map Char.toLower
    (Escaped → ∀ body file,
        renderPage engine tree (some path) body file = .ok (layout.page true body file)) ∧
      (¬Escaped → ∀ body file,
        renderPage engine tree (some path) body file = .ok (layout.page false body file)) ∧
      (∀ escapes before after blanks body file,
        (Slot.value ⟨before, "body".toList, after, some blanks⟩).shown escapes body file = body) ∧
      (∀ before after body file,
        (Slot.value ⟨before, "file".toList, after, none⟩).shown true body file =
            Html.escapeValue file ∧
          (∀ c ∈ Html.escapeValue file, Html.isMarkup c = false) ∧
          (Slot.value ⟨before, "file".toList, after, none⟩).shown false body file = file) ∧
      (Escaped → (∀ slot text, (slot, text) ∈ layout.slots → ¬slot.TrustsFile) →
        ∀ body file other,
          (renderPage engine tree (some path) body file).map (·.filter Html.isMarkup) =
            (renderPage engine tree (some path) body other).map (·.filter Html.isMarkup)) := by
  intro Escaped
  have hpages := renderPage_of_layout hengine hvalid htext
  have hescaped : Escaped → ∀ body file,
      renderPage engine tree (some path) body file = .ok (layout.page true body file) := by
    intro hending body file
    rw [hpages, Template.escapesFor_iff.mpr hending]
  refine ⟨hescaped, ?_, ?_, ?_, ?_⟩
  · intro hending body file
    rw [hpages, Bool.eq_false_iff.mpr fun h => hending (Template.escapesFor_iff.mp h)]
  · intro escapes before after blanks body file
    simp [Slot.shown, Template.valueOf]
  · intro before after body file
    refine ⟨by simp [Slot.shown, Template.valueOf], ?_, by simp [Slot.shown, Template.valueOf]⟩
    intro c hc
    exact Html.isMarkup_of_mem_escapeValue hc
  · intro hending hplain body file other
    rw [hescaped hending, hescaped hending]
    exact congrArg Except.ok (layout.filter_page hplain body file other)

/-- A template with a line break of two characters, in a file whose ending has capital letters, and
a template in a file with another ending. -/
theorem template_pages_fill_slots_by_ending :
    let upper : Path := ⟨.relative, ["t.HTML".toList]⟩
    let plain : Path := ⟨.relative, ["t.txt".toList]⟩
    let tree : FileTree := ⟨[
      (⟨.current, upper.names⟩, .file (encodeUtf8
        "<p>\x7b\x7b file\x7d\x7d</p>\r\n\x7b# x #\x7d\x7b\x7bbody|safe\x7d\x7d".toList)),
      (⟨.current, plain.names⟩, .file (encodeUtf8 "\x7b\x7b file \x7d\x7d".toList))]⟩
    let layout : Layout := ⟨"<p>".toList, [
      (.value ⟨[' '], "file".toList, [], none⟩, "</p>\n".toList),
      (.comment " x ".toList, []),
      (.value ⟨[], "body".toList, [], some ([], [])⟩, [])]⟩
    let single : Layout := ⟨[], [(.value ⟨[' '], "file".toList, [' '], none⟩, [])]⟩
    (layout.Valid (· ∉ Template.reservedNames) ∧ templateText tree upper = .ok layout.source ∧
        renderPage Template.engine tree (some upper) "<i>".toList "<b>".toList =
          .ok "<p>&lt;b&gt;</p>\n<i>".toList ∧
        ∀ file, (renderPage Template.engine tree (some upper) "<i>".toList file).map
          (·.filter Html.isMarkup) = .ok "<><><>".toList) ∧
      single.Valid (· ∉ Template.reservedNames) ∧ templateText tree plain = .ok single.source ∧
        ∀ body file, renderPage Template.engine tree (some plain) body file = .ok file := by
  intro upper plain tree layout single
  have hvalid : layout.Valid (· ∉ Template.reservedNames) := by
    refine ⟨?_, ?_, by decide⟩
    · intro slot text hmem
      simp only [layout, List.mem_cons, Prod.mk.injEq, List.not_mem_nil, or_false] at hmem
      rcases hmem with ⟨rfl, -⟩ | ⟨rfl, -⟩ | ⟨rfl, -⟩
      · exact Slot.valid_value (.inr rfl) (by decide) (by decide)
      · exact ⟨by decide, by decide, by decide⟩
      · exact Slot.valid_value (.inl rfl) (by decide) (by decide)
    · intro text hmem
      apply opensNone_of_notMem
      simp only [layout, List.map_cons, List.map_nil, List.mem_cons, List.not_mem_nil,
        or_false, or_self] at hmem
      rcases hmem with rfl | rfl | rfl
      · decide
      · decide
      · decide
  have hsingle : single.Valid (· ∉ Template.reservedNames) := by
    refine ⟨?_, ?_, by decide⟩
    · intro slot text hmem
      simp only [single, List.mem_singleton, Prod.mk.injEq] at hmem
      obtain ⟨rfl, -⟩ := hmem
      exact Slot.valid_value (.inr rfl) (by decide) (by decide)
    · intro text hmem
      apply opensNone_of_notMem
      simp only [single, List.map_cons, List.map_nil, List.mem_cons, List.not_mem_nil,
        or_false, or_self] at hmem
      obtain rfl := hmem
      exact List.not_mem_nil
  have htext : templateText tree upper = .ok layout.source := by decide +kernel
  have hplainText : templateText tree plain = .ok single.source := by decide +kernel
  obtain ⟨hpage, -, -, -, hescaped⟩ :=
    template_pages_fill_slots Template.lawful_engine hvalid htext
  obtain ⟨-, hgiven, -, hshown, -⟩ :=
    template_pages_fill_slots Template.lawful_engine hsingle hplainText
  have hending : ∃ ending ∈ [".html", ".html.j2", ".htm"],
      ending.toList <:+ upper.name.map Char.toLower := ⟨".html", by simp, by decide⟩
  have hother : ¬∃ ending ∈ [".html", ".html.j2", ".htm"],
      ending.toList <:+ plain.name.map Char.toLower := by
    rw [← Template.escapesFor_iff]
    decide
  refine ⟨⟨hvalid, htext, ?_, ?_⟩, hsingle, hplainText, ?_⟩
  · rw [hpage hending]
    decide +kernel
  · intro file
    have hplain : ∀ slot text, (slot, text) ∈ layout.slots → ¬slot.TrustsFile := by
      intro slot text hmem
      simp only [layout, List.mem_cons, Prod.mk.injEq, List.not_mem_nil, or_false] at hmem
      rcases hmem with ⟨rfl, -⟩ | ⟨rfl, -⟩ | ⟨rfl, -⟩ <;> simp [Slot.TrustsFile]
    rw [hescaped hending hplain "<i>".toList file "<b>".toList, hpage hending]
    decide +kernel
  · intro body file
    have hfile := (hshown [' '] [' '] body file).2.2
    rw [hgiven hother]
    simp only [Layout.page, single, List.flatMap_cons, List.flatMap_nil, hfile, List.append_nil,
      List.nil_append]

end SlashDoc
