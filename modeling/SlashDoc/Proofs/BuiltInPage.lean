import SlashDoc.Proofs.TemplatePages

/-!
# The built-in page

The name of the file stands twice in the built-in page, escaped both times, and the document stands
behind it as it is. An escaped name has no bracket, so it ends where the next tag begins; that is
enough to read both values back from a page, and to find the same tags in the pages of all files.
-/
namespace SlashDoc

open Text

namespace Html

def firstOfValue? : Text → Option (Char × Text)
  | '&' :: 'a' :: 'm' :: 'p' :: ';' :: rest => some ('&', rest)
  | '&' :: 'l' :: 't' :: ';' :: rest => some ('<', rest)
  | '&' :: 'g' :: 't' :: ';' :: rest => some ('>', rest)
  | '&' :: '#' :: '3' :: '9' :: ';' :: rest => some ('\x27', rest)
  | '&' :: '#' :: '3' :: '4' :: ';' :: rest => some ('"', rest)
  | c :: rest => some (c, rest)
  | [] => none

theorem firstOfValue?_cons {c : Char} (h : c ≠ '&') (rest : Text) :
    firstOfValue? (c :: rest) = some (c, rest) := by
  unfold firstOfValue?
  split <;> simp_all

theorem firstOfValue?_pageEntity_append (c : Char) (rest : Text) :
    firstOfValue? (pageEntity c ++ rest) = some (c, rest) := by
  unfold pageEntity
  split
  · rfl
  · rfl
  · rfl
  · rfl
  · rfl
  · rename_i hamp _ _ _ _
    exact firstOfValue?_cons hamp rest

theorem escapeValue_cons (c : Char) (text : Text) :
    escapeValue (c :: text) = pageEntity c ++ escapeValue text := rfl

theorem escapeValue_injective : Function.Injective escapeValue := by
  intro text
  induction text with
  | nil =>
    intro other h
    rcases other with _ | ⟨d, other⟩
    · rfl
    · have hfirst := firstOfValue?_pageEntity_append d (escapeValue other)
      rw [← escapeValue_cons, ← h] at hfirst
      cases hfirst
  | cons c text ih =>
    intro other h
    have hfirst := firstOfValue?_pageEntity_append c (escapeValue text)
    rw [← escapeValue_cons, h] at hfirst
    rcases other with _ | ⟨d, other⟩
    · cases hfirst
    · rw [escapeValue_cons, firstOfValue?_pageEntity_append] at hfirst
      obtain ⟨rfl, hrest⟩ := Prod.mk.inj (Option.some.inj hfirst)
      rw [ih hrest.symm]

theorem apostrophe_notMem_escapeValue (text : Text) : '\x27' ∉ escapeValue text := by
  intro hmem
  obtain ⟨c, -, hc⟩ := List.mem_flatMap.mp hmem
  unfold pageEntity at hc
  split at hc
  · simp at hc
  · simp at hc
  · simp at hc
  · simp at hc
  · simp at hc
  · rename_i hapostrophe _
    exact hapostrophe (List.mem_singleton.mp hc).symm

theorem notMem_escapeValue {c : Char} (h : isMarkup c = true) (text : Text) :
    c ∉ escapeValue text := by
  intro hmem
  cases h.symm.trans (isMarkup_of_mem_escapeValue hmem)

theorem tags_cons (back : Text) : tags ('<' :: back) = (splitOn '<' back).map Tag.ofPiece := rfl

theorem tags_append (front back : Text) :
    tags (front ++ '<' :: back) = tags front ++ tags ('<' :: back) := by
  rw [tags_cons, tags, splitOn_append_cons,
    List.tail_append_of_ne_nil (splitOn_ne_nil '<' front), List.map_append]
  rfl

/-- A tag with the text behind it is found between any two pieces of markup. -/
theorem tags_written {name text : Text} (hname : '<' ∉ name ∧ '>' ∉ name) (htext : '<' ∉ text)
    (front back : Text) :
    tags (front ++ (Tag.written ⟨name, text⟩ ++ '<' :: back)) =
      tags front ++ ⟨name, text⟩ :: tags ('<' :: back) := by
  have hpiece : '<' ∉ name ++ '>' :: text := by simp [hname.1, htext]
  have htag : Tag.ofPiece (name ++ '>' :: text) = ⟨name, text⟩ :=
    Tag.ofPiece_of_notMem (show '>' ∉ (Tag.mk name text).name from hname.2)
  rw [Tag.written, List.cons_append, tags_append, tags_cons, splitOn_append_cons,
    splitOn_of_notMem hpiece, List.map_append, List.map_singleton, htag, List.singleton_append]
  rfl

end Html

namespace Template

def builtInStart : Text :=
  "<!DOCTYPE html>\n<html>\n<head>\n  <meta charset=\"utf-8\">\n  <title>".toList

def builtInMiddle : Text :=
  ("</title>\n  <style>\n" ++
   "    body \x7b font-family: Georgia, serif; max-width: 46em; margin: 2em auto; " ++
     "line-height: 1.5; \x7d\n" ++
   "    code, pre \x7b font-family: Menlo, Consolas, monospace; font-size: 0.9em; \x7d\n" ++
   "    table.sig \x7b border-collapse: collapse; margin: 0.5em 0 1em; \x7d\n" ++
   "    table.sig td \x7b padding: 0.1em 0.4em; \x7d\n" ++
   "  </style>\n</head>\n<body>\n<div class=\"source\">").toList

def builtInEnd : Text := "\n</body>\n</html>\n".toList

/-- The standard template, taken apart at its slots. -/
def builtIn : Layout :=
  ⟨builtInStart, [
    (.value ⟨[' '], "file".toList, [' '], none⟩, builtInMiddle),
    (.value ⟨[' '], "file".toList, [' '], none⟩, "</div>\n".toList),
    (.value ⟨[' '], "body".toList, [' '], some ([' '], [' '])⟩, builtInEnd)]⟩

theorem source_builtIn : builtIn.source = standardText := by
  have hfile : Placeholder.source ⟨[' '], "file".toList, [' '], none⟩ =
      "\x7b\x7b file \x7d\x7d".toList := by decide
  have hbody : Placeholder.source ⟨[' '], "body".toList, [' '], some ([' '], [' '])⟩ =
      "\x7b\x7b body | safe \x7d\x7d".toList := by decide
  -- the texts around the slots, with the lines of the template cut at its marks
  have hhead : builtInStart =
      "<!DOCTYPE html>\n<html>\n<head>\n  <meta charset=\"utf-8\">\n".toList ++
        "  <title>".toList := by decide
  have htitle : "  <title>\x7b\x7b file \x7d\x7d</title>\n  <style>\n".toList =
      "  <title>".toList ++
        ("\x7b\x7b file \x7d\x7d".toList ++ "</title>\n  <style>\n".toList) := by decide
  have hsource :
      "  </style>\n</head>\n<body>\n<div class=\"source\">\x7b\x7b file \x7d\x7d</div>\n".toList =
      "  </style>\n</head>\n<body>\n<div class=\"source\">".toList ++
        ("\x7b\x7b file \x7d\x7d".toList ++ "</div>\n".toList) := by decide
  have hend : "\x7b\x7b body | safe \x7d\x7d\n</body>\n</html>\n".toList =
      "\x7b\x7b body | safe \x7d\x7d".toList ++ builtInEnd := by decide
  unfold standardText builtIn builtInMiddle
  simp only [Layout.source, List.flatMap_cons, List.flatMap_nil, Slot.source, hfile, hbody, hhead,
    String.toList_append, htitle, hsource, hend, List.append_assoc, List.append_nil]

theorem return_notMem_standardText : '\r' ∉ standardText := by
  unfold standardText
  simp only [String.toList_append, List.mem_append, not_or]
  repeat' constructor
  all_goals
    rw [String.toList_ofList]
    decide

def Markless (text : Text) : Prop :=
  OpensNone text ∧ text.getLast? ≠ some '\x7b'

theorem Markless.append {text later : Text} (h : Markless text) (hlater : Markless later) :
    Markless (text ++ later) := by
  refine ⟨h.1.append h.2 hlater.1, ?_⟩
  rw [List.getLast?_append]
  cases hlast : later.getLast? with
  | none => exact h.2
  | some c => simpa [hlast] using hlater.2

/-- The style sheet has lone braces, so its lines are looked through one by one. -/
theorem markless_builtInMiddle : Markless builtInMiddle := by
  unfold builtInMiddle
  simp only [String.toList_append]
  repeat' apply Markless.append
  all_goals
    rw [String.toList_ofList]
    exact ⟨opensNone_of_isChain (by decide +kernel), by decide⟩

theorem valid_builtIn (unset : Text → Prop) : builtIn.Valid unset := by
  refine ⟨?_, ?_, ?_⟩
  · intro slot text hmem
    simp only [builtIn, List.mem_cons, Prod.mk.injEq, List.not_mem_nil, or_false] at hmem
    rcases hmem with ⟨rfl, -⟩ | ⟨rfl, -⟩ | ⟨rfl, -⟩
    · exact Slot.valid_value (.inr rfl) (by decide) (by decide)
    · exact Slot.valid_value (.inr rfl) (by decide) (by decide)
    · exact Slot.valid_value (.inl rfl) (by decide) (by decide)
  · intro text hmem
    simp only [builtIn, List.map_cons, List.map_nil, List.mem_cons, List.not_mem_nil,
      or_false] at hmem
    rcases hmem with h | h | h | h
    · rw [h]
      exact opensNone_of_notMem (by decide)
    · rw [h]
      exact markless_builtInMiddle.1
    · rw [h]
      exact opensNone_of_notMem (by decide)
    · rw [h]
      exact opensNone_of_notMem (by decide)
  · intro text hmem
    simp only [builtIn, List.map_cons, List.map_nil, List.dropLast_cons_cons,
      List.dropLast_singleton, List.mem_cons, List.not_mem_nil, or_false] at hmem
    rcases hmem with h | h | h
    · rw [h]
      decide
    · rw [h]
      exact markless_builtInMiddle.2
    · rw [h]
      decide

def behindTitle (body file : Text) : Text :=
  builtInMiddle ++ (Html.escapeValue file ++ ("</div>\n".toList ++ (body ++ builtInEnd)))

theorem page_builtIn (body file : Text) :
    builtIn.page true body file =
      builtInStart ++ (Html.escapeValue file ++ behindTitle body file) := by
  simp [builtIn, Layout.page, Slot.shown, valueOf, behindTitle]

theorem exists_builtInStart : ∃ front, builtInStart = front ++ "<title>".toList :=
  ⟨builtInStart.take (builtInStart.length - 7), by decide +kernel⟩

theorem exists_builtInMiddle :
    ∃ between, builtInMiddle = '<' :: between ++ "<div class=\"source\">".toList := by
  have hfirst : "</title>\n  <style>\n".toList = '<' :: "/title>\n  <style>\n".toList := by decide
  have hlast : "  </style>\n</head>\n<body>\n<div class=\"source\">".toList =
      "  </style>\n</head>\n<body>\n".toList ++ "<div class=\"source\">".toList := by decide
  unfold builtInMiddle
  rw [String.toList_append, String.toList_append, String.toList_append, String.toList_append,
    String.toList_append, String.toList_append, hfirst, hlast, ← List.append_assoc]
  exact ⟨_, rfl⟩

end Template

open Template

section Engine

variable {engine : Engine} {unset : Text → Prop}

theorem renderPage_none (hengine : engine.Lawful unset) (tree : FileTree) (body file : Text) :
    renderPage engine tree none body file =
      .ok (builtInStart ++ (Html.escapeValue file ++ behindTitle body file)) := by
  have hreturn : '\r' ∉ builtIn.source := by
    rw [source_builtIn]
    exact return_notMem_standardText
  have hescapes : escapesFor standardPath.name = true := by decide +kernel
  have hpage := builtIn.render_source hengine (valid_builtIn unset) hreturn tree standardPath true
    body file
  rw [source_builtIn, page_builtIn] at hpage
  simp only [renderPage, templateSource, bind, Except.bind, Option.getD_none, hescapes, hpage,
    Except.mapError]

end Engine

theorem takeWhile_title (body file : Text) :
    (Html.escapeValue file ++ behindTitle body file).takeWhile (· != '<') =
      Html.escapeValue file := by
  have hhead : (behindTitle body file).head? = some '<' := by
    obtain ⟨between, hbetween⟩ := exists_builtInMiddle
    rw [behindTitle, hbetween]
    rfl
  have hrun := maximalRun_of_head? (p := (· != '<'))
    (bne_of_notMem (Html.notMem_escapeValue rfl file)) hhead rfl
  exact hrun.takeWhile_eq rfl

theorem escapeValue_append_inj {body other file name : Text}
    (h : Html.escapeValue file ++ behindTitle body file =
      Html.escapeValue name ++ behindTitle other name) : body = other ∧ file = name := by
  have hfile : file = name := by
    apply Html.escapeValue_injective
    rw [← takeWhile_title body file, h, takeWhile_title]
  subst hfile
  unfold behindTitle at h
  have hbody := List.append_cancel_left (List.append_cancel_left
    (List.append_cancel_left (List.append_cancel_left h)))
  exact ⟨List.append_cancel_right hbody, rfl⟩

theorem tags_builtIn :
    ∃ before between : List Html.Tag, ∀ body, ∃ after : List Html.Tag, ∀ file,
      Html.tags (builtInStart ++ (Html.escapeValue file ++ behindTitle body file)) =
        before ++ ⟨"title".toList, Html.escapeValue file⟩ ::
          (between ++ ⟨"div class=\"source\"".toList, Html.escapeValue file⟩ :: after) := by
  obtain ⟨front, hfront⟩ := exists_builtInStart
  obtain ⟨between, hbetween⟩ := exists_builtInMiddle
  refine ⟨Html.tags front, Html.tags ('<' :: between), fun body =>
    ⟨Html.tags ("</div>\n".toList ++ (body ++ builtInEnd)), fun file => ?_⟩⟩
  have hname : '<' ∉ Html.escapeValue file := Html.notMem_escapeValue rfl file
  have hsource := Html.tags_written (show '<' ∉ "div class=\"source\"".toList ∧ _ by decide) hname
    ('<' :: between) ("/div>\n".toList ++ (body ++ builtInEnd))
  have htitle := Html.tags_written (show '<' ∉ "title".toList ∧ _ by decide) hname front
    (between ++ (Html.Tag.written ⟨"div class=\"source\"".toList, Html.escapeValue file⟩ ++
      '<' :: ("/div>\n".toList ++ (body ++ builtInEnd))))
  rw [List.cons_append] at hsource
  rw [hsource] at htitle
  rw [hfront, behindTitle, hbetween, List.append_assoc, List.append_assoc]
  exact htitle

/-- The standard page determines the document and the name of the file. The document stands in it as
it is. The name of the file brings none of the characters that markup is made of: the pages of one
document have the same tags for all files, and differ in the text behind two of them. -/
theorem built_in_page_determines_values {engine : Engine} {unset : Text → Prop}
    (hengine : engine.Lawful unset) :
    (∀ tree other body file body' file',
      renderPage engine tree none body file = renderPage engine other none body' file' ↔
        body = body' ∧ file = file') ∧
      (∀ tree body file, renderPage engine tree none body file =
        .ok (builtInStart ++ Html.escapeValue file ++ builtInMiddle ++ Html.escapeValue file ++
          "</div>\n".toList ++ body ++ builtInEnd)) ∧
      (∀ file, '<' ∉ Html.escapeValue file ∧ '>' ∉ Html.escapeValue file ∧
        '"' ∉ Html.escapeValue file ∧ '\x27' ∉ Html.escapeValue file) ∧
      ∃ before between : List Html.Tag, ∀ body, ∃ after : List Html.Tag, ∀ tree file, ∃ page,
        renderPage engine tree none body file = .ok page ∧
          Html.tags page = before ++ ⟨"title".toList, Html.escapeValue file⟩ ::
            (between ++ ⟨"div class=\"source\"".toList, Html.escapeValue file⟩ :: after) := by
  have hpages := renderPage_none hengine
  refine ⟨?_, ?_, ?_, ?_⟩
  · intro tree other body file body' file'
    rw [hpages, hpages]
    constructor
    · intro h
      exact escapeValue_append_inj (List.append_cancel_left (Except.ok.inj h))
    · rintro ⟨rfl, rfl⟩
      rfl
  · intro tree body file
    rw [hpages]
    simp [behindTitle]
  · intro file
    exact ⟨Html.notMem_escapeValue rfl file, Html.notMem_escapeValue rfl file,
      Html.notMem_escapeValue rfl file, Html.apostrophe_notMem_escapeValue file⟩
  · obtain ⟨before, between, htags⟩ := tags_builtIn
    refine ⟨before, between, fun body => ?_⟩
    obtain ⟨after, htags⟩ := htags body
    exact ⟨after, fun tree file => ⟨_, hpages tree body file, htags file⟩⟩

/-- A name that is markup, and the same name as it would be written in a page. -/
theorem built_in_page_determines_values_of_entity :
    renderPage engine {} none "<p>".toList "&lt;".toList ≠
        renderPage engine {} none "<p>".toList "<".toList ∧
      ∃ before between after : List Html.Tag, ∀ file, ∃ page,
        renderPage engine {} none "<p>".toList file = .ok page ∧
          Html.tags page = before ++ ⟨"title".toList, Html.escapeValue file⟩ ::
            (between ++ ⟨"div class=\"source\"".toList, Html.escapeValue file⟩ :: after) := by
  obtain ⟨hdetermines, -, -, before, between, htags⟩ :=
    built_in_page_determines_values lawful_engine
  refine ⟨?_, ?_⟩
  · rw [Ne, hdetermines]
    decide
  · obtain ⟨after, hafter⟩ := htags "<p>".toList
    exact ⟨before, between, after, hafter {}⟩

end SlashDoc
