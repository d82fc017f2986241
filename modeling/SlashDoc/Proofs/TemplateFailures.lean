import SlashDoc.Proofs.CommandOutcome

/-!
# Failures of templates

What can go wrong on the way to a page, layer by layer: the template's file is not found, may not be
opened, or has bytes of no text; or the engine raises an error of its own, or one of what it calls.
A file that is not found and the engine's own errors are reported as failures of the template. All
others break off the page, and a run of the command with it.
-/
namespace SlashDoc

open Text

theorem Encoding.decode_utf8_eq_ok_iff {bytes : List UInt8} {text : Text} :
    Encoding.utf8.decode bytes = .ok text ↔ bytes = encodeUtf8 text := by
  rw [← Decoder.run?_eq_some_none_iff]
  cases hfeed : Decoder.feed .utf8 none bytes with
  | error fault =>
    rw [Reader.run?_of_feed hfeed, Encoding.decode, hfeed]
    constructor <;> intro h <;> cases h
  | ok result =>
    obtain ⟨found, decoder⟩ := result
    rw [Reader.run?_of_feed hfeed, Encoding.decode, hfeed]
    cases decoder with
    | none =>
      change Except.ok found = .ok text ↔ some (found, none) = some (text, none)
      simp
    | some sequence => constructor <;> intro h <;> cases h

inductive IsSource (tree : FileTree) : Option Path → Text → Prop
  | standard : IsSource tree none Template.standardText
  | file {path : Path} {text : Text} (hname : path.name ≠ "..".toList)
      (hread : tree.read path.toText = .ok (text.flatMap String.utf8EncodeChar)) :
      IsSource tree (some path) (Line.normalise text)

inductive Unreadable (tree : FileTree) : Option Path → Prop
  | undecodable {path : Path} {bytes : List UInt8} (hname : path.name ≠ "..".toList)
      (hread : tree.read path.toText = .ok bytes)
      (hbytes : ∀ text : Text, text.flatMap String.utf8EncodeChar ≠ bytes) :
      Unreadable tree (some path)
  | denied {path : Path} (hname : path.name ≠ "..".toList)
      (hread : tree.read path.toText = .error .denied) : Unreadable tree (some path)

/-- The template is unreadable, or the engine raises an error that is not its own. -/
def BreaksOff (engine : Engine) (tree : FileTree) (template : Option Path) (body file : Text) :
    Prop :=
  let path := template.getD Template.standardPath
  Unreadable tree template ∨ ∃ source kind message, IsSource tree template source ∧
    engine.render tree path (Template.escapesFor path.name) source body file =
      .error (.other kind message)

/-- The text of a template is found in one way, and not where the template is unreadable. -/
theorem IsSource.templateSource {tree : FileTree} {template : Option Path} {source : Text}
    (h : IsSource tree template source) : templateSource tree template = .ok source := by
  cases h with
  | standard => rfl
  | @file path text hname hread =>
    rw [← encodeUtf8_eq_flatMap] at hread
    have hdecode := Encoding.decode_utf8_eq_ok_iff.mpr (rfl : encodeUtf8 text = encodeUtf8 text)
    rw [SlashDoc.templateSource, templateText, if_neg hname, hread]
    dsimp only
    rw [hdecode]

theorem Unreadable.templateSource {tree : FileTree} {template : Option Path}
    (h : Unreadable tree template) :
    ∃ fault, templateSource tree template = .error (.foreign fault) := by
  cases h with
  | denied hname hread =>
    rw [SlashDoc.templateSource, templateText, if_neg hname, hread]
    exact ⟨_, rfl⟩
  | @undecodable path bytes hname hread hbytes =>
    rw [SlashDoc.templateSource, templateText, if_neg hname, hread]
    dsimp only
    cases hdecode : Encoding.utf8.decode bytes with
    | error fault => exact ⟨_, rfl⟩
    | ok text =>
      have htext := Encoding.decode_utf8_eq_ok_iff.mp hdecode
      rw [encodeUtf8_eq_flatMap] at htext
      exact absurd htext.symm (hbytes text)

/-- All that can come of looking for the text of a template. -/
theorem templateSource_cases (tree : FileTree) (template : Option Path) :
    (∃ source, IsSource tree template source ∧ templateSource tree template = .ok source) ∨
      (Unreadable tree template ∧
        ∃ fault, templateSource tree template = .error (.foreign fault)) ∨
      ∃ fault, templateSource tree template =
        .error (.template (template.getD Template.standardPath) fault) := by
  rcases template with _ | path
  · exact .inl ⟨_, .standard, rfl⟩
  · by_cases hname : path.name = "..".toList
    · refine .inr (.inr ⟨.parentName, ?_⟩)
      rw [templateSource, templateText, if_pos hname]
      rfl
    · cases hread : tree.read path.toText with
      | error fault =>
        cases fault with
        | denied =>
          have hdenied : Unreadable tree (some path) := .denied hname hread
          exact .inr (.inl ⟨hdenied, hdenied.templateSource⟩)
        | notFound | notDirectory | isDirectory | nameTooLong =>
          rw [templateSource, templateText, if_neg hname, hread]
          exact .inr (.inr ⟨_, rfl⟩)
      | ok bytes =>
        by_cases htext : ∃ text : Text, text.flatMap String.utf8EncodeChar = bytes
        · obtain ⟨text, rfl⟩ := htext
          have hsource := IsSource.file hname hread
          exact .inl ⟨_, hsource, hsource.templateSource⟩
        · have hundecodable := Unreadable.undecodable hname hread (not_exists.mp htext)
          exact .inr (.inl ⟨hundecodable, hundecodable.templateSource⟩)

section Page

variable (engine : Engine) (tree : FileTree) (template : Option Path) (body file : Text)

theorem renderPage_of_source {source : Text}
    (h : templateSource tree template = .ok source) :
    let path := template.getD Template.standardPath
    renderPage engine tree template body file =
      (engine.render tree path (Template.escapesFor path.name) source body file).mapError
        (PageFault.ofError path) := by
  intro path
  rw [renderPage, h]
  rfl

theorem not_breaksOff {source : Text} (hfound : templateSource tree template = .ok source)
    (hrender : let path := template.getD Template.standardPath
      ∀ kind message, engine.render tree path (Template.escapesFor path.name) source body file ≠
        .error (.other kind message)) :
    ¬BreaksOff engine tree template body file := by
  rintro (hunreadable | ⟨other, kind, message, hother, hraised⟩)
  · obtain ⟨fault, hfault⟩ := hunreadable.templateSource
    cases hfound.symm.trans hfault
  · cases hfound.symm.trans hother.templateSource
    exact hrender kind message hraised

/-- A page is broken off, made by the engine from the text of its template, or not made through a
fault of the template. -/
theorem renderPage_cases :
    let path := template.getD Template.standardPath
    (BreaksOff engine tree template body file ∧
        ∃ fault, renderPage engine tree template body file = .error (.foreign fault)) ∨
      ¬BreaksOff engine tree template body file ∧
        ((∃ source page, IsSource tree template source ∧
            engine.render tree path (Template.escapesFor path.name) source body file = .ok page ∧
            renderPage engine tree template body file = .ok page) ∨
          ∃ fault, renderPage engine tree template body file = .error (.template path fault)) := by
  intro path
  rcases templateSource_cases tree template with
    ⟨source, hsource, hfound⟩ | ⟨hunreadable, fault, hfound⟩ | ⟨fault, hfound⟩
  · have hpage := renderPage_of_source engine tree template body file hfound
    cases hrender : engine.render tree path (Template.escapesFor path.name) source body file with
    | ok page =>
      refine .inr ⟨?_, .inl ⟨source, page, hsource, hrender, ?_⟩⟩
      · exact not_breaksOff engine tree template body file hfound (by simp [path, hrender])
      · rw [hpage, hrender]
        rfl
    | error error =>
      cases error with
      | own kind message =>
        refine .inr ⟨?_, .inr ⟨.raised kind message, ?_⟩⟩
        · exact not_breaksOff engine tree template body file hfound (by simp [path, hrender])
        · rw [hpage, hrender]
          rfl
      | other kind message =>
        refine .inl ⟨.inr ⟨source, kind, message, hsource, hrender⟩, .raised kind message, ?_⟩
        rw [hpage, hrender]
        rfl
  · refine .inl ⟨.inl hunreadable, fault, ?_⟩
    rw [renderPage, hfound]
    rfl
  · refine .inr ⟨?_, .inr ⟨fault, ?_⟩⟩
    · rintro (hunreadable | ⟨source, kind, message, hsource, -⟩)
      · obtain ⟨other, hother⟩ := hunreadable.templateSource
        cases hfound.symm.trans hother
      · cases hfound.symm.trans hsource.templateSource
    · rw [renderPage, hfound]
      rfl

end Page

namespace Command

section

variable {tools : Tools} {settings : Settings} {arguments : Arguments} {tree : FileTree}
variable {text page : Text}

/-- Every output can be handed out: it is printed, or goes to a file that can be opened, on a disk
that takes all of it. -/
def Accepts (disk : Disk) (tree : FileTree) (target : Option SwitchValue) : Prop :=
  ∀ value, target = some value → ∃ path place, value = some path ∧
    '\x00' ∉ (Path.ofText path).toText ∧ tree.writable (Path.ofText path).toText = .ok place ∧
    ∀ bytes, disk.breaksOff (Path.ofText path).toText bytes = none

structure Delivers (tools : Tools) (settings : Settings) (arguments : Arguments) (tree : FileTree)
    (outcome : Outcome) : Prop where
  exitCode : outcome.exitCode = 0
  page : ∃ page, IsPage tools settings tree (Path.ofText arguments.file) arguments.markdown page ∧
    (arguments.output = none ∧ outcome.printed = endLine page ∨
      ∃ path, arguments.output = some (some path) ∧
        outcome.tree.read (Path.ofText path).toText = .ok (encodeUtf8 (endLine page)))

structure Reports (tools : Tools) (settings : Settings) (tree : FileTree) (body file : Text)
    (outcome : Outcome) : Prop where
  exitCode : outcome.exitCode = 1
  printed : outcome.printed = []
  files : outcome.tree = tree
  written : outcome.written = none
  complaint : ∃ path fault,
    renderPage tools.engine tree settings.template body file = .error (.template path fault) ∧
    outcome.complaint = some ("untangle: ".toList ++ Failure.because
      ("Cannot render template ".toList ++ path.toText) (some fault.reason))

theorem exists_delivers
    (hpage : IsPage tools settings tree (Path.ofText arguments.file) arguments.markdown page)
    (htarget : Accepts tools.disk tree arguments.output) :
    ∃ outcome, runWith tools settings arguments tree = .ok outcome ∧
      Delivers tools settings arguments tree outcome := by
  rw [runWith_eq_map, convert_eq_ok_iff.mpr hpage, handOut]
  have hemits := emits tools.disk tree arguments.output (endLine page)
  generalize hoption : arguments.output = target at hemits htarget ⊢
  generalize emit tools.disk tree target (endLine page) = handout at hemits ⊢
  cases hemits with
  | prints => exact ⟨_, rfl, rfl, page, hpage, .inl ⟨hoption, rfl⟩⟩
  | noPath => obtain ⟨path, place, ⟨⟩, -⟩ := htarget none rfl
  | nullPath hpath =>
    obtain ⟨path, place, ⟨⟩, hnull, -⟩ := htarget _ rfl
    exact absurd hpath hnull
  | refused hplace =>
    obtain ⟨path, place, ⟨⟩, -, hwritable, -⟩ := htarget _ rfl
    cases hplace.symm.trans hwritable
  | @writes path place hplace htaken =>
    obtain ⟨hresolve, hnode⟩ := FileTree.writable_eq_ok hplace
    have hread := (FileTree.rewrites_put (encodeUtf8 (endLine page)) hnode).read hresolve
    exact ⟨_, rfl, rfl, page, hpage, .inr ⟨path, hoption, hread⟩⟩
  | breaksOff hplace hbroken =>
    obtain ⟨path, place, ⟨⟩, -, -, htaken⟩ := htarget _ rfl
    cases hbroken.symm.trans (htaken _)

/-- A run that can read its source goes by what becomes of its page. -/
theorem convert_of_text (tools : Tools) (settings : Settings)
    (hpath : '\x00' ∉ (Path.ofText arguments.file).toText)
    (hread : tree.read (Path.ofText arguments.file).toText =
      .ok (text.flatMap String.utf8EncodeChar)) (hmarkdown : arguments.markdown = false) :
    (convert tools settings tree (Path.ofText arguments.file) arguments.markdown).2 =
      (renderPage tools.engine tree settings.template
        (Markdown.render tools.markdown (extractDocument settings text))
        (Path.ofText arguments.file).name).mapError Halt.ofPage := by
  rw [← encodeUtf8_eq_flatMap] at hread
  rw [convert_of_ok (extractFile_of_encodeUtf8 hpath hread), hmarkdown]
  rfl

/-- Where the source can be read and any output handed out, a run delivers its page or reports its
template, unless it needs a page that breaks off. -/
theorem runWith_template_cases (hpath : '\x00' ∉ (Path.ofText arguments.file).toText)
    (hread : tree.read (Path.ofText arguments.file).toText =
      .ok (text.flatMap String.utf8EncodeChar))
    (htarget : Accepts tools.disk tree arguments.output) :
    let body := Markdown.render tools.markdown (extractDocument settings text)
    let file := (Path.ofText arguments.file).name
    let Broken := arguments.markdown = false ∧
      BreaksOff tools.engine tree settings.template body file
    (Broken ∧ ∃ fault, runWith tools settings arguments tree = .error (.page fault)) ∨
      ¬Broken ∧ ∃ outcome, runWith tools settings arguments tree = .ok outcome ∧
        (Delivers tools settings arguments tree outcome ∨
          Reports tools settings tree body file outcome) := by
  intro body file Broken
  cases hmarkdown : arguments.markdown with
  | true =>
    have hpage : IsPage tools settings tree (Path.ofText arguments.file) arguments.markdown
        (extractDocument settings text) := by
      rw [hmarkdown]
      exact ⟨hpath, text, hread, rfl⟩
    obtain ⟨outcome, hrun, hdelivered⟩ := exists_delivers hpage htarget
    refine .inr ⟨fun hbroken => ?_, outcome, hrun, .inl hdelivered⟩
    cases hmarkdown.symm.trans hbroken.1
  | false =>
    have hconvert := convert_of_text tools settings hpath hread hmarkdown
    rcases renderPage_cases tools.engine tree settings.template body file with
      ⟨hbreaks, fault, hfault⟩ | ⟨hkeeps, ⟨source, page, -, -, hmade⟩ | ⟨fault, hfault⟩⟩
    · refine .inl ⟨⟨hmarkdown, hbreaks⟩, fault, ?_⟩
      rw [runWith_eq_map, hconvert, hfault]
      rfl
    · have hpage : IsPage tools settings tree (Path.ofText arguments.file) arguments.markdown
          page := by
        rw [hmarkdown]
        exact ⟨hpath, text, hread, hmade⟩
      obtain ⟨outcome, hrun, hdelivered⟩ := exists_delivers hpage htarget
      exact .inr ⟨fun hbroken => hkeeps hbroken.2, outcome, hrun, .inl hdelivered⟩
    · refine .inr ⟨fun hbroken => hkeeps hbroken.2, ?_⟩
      rw [runWith_eq_map, hconvert, hfault]
      exact ⟨_, rfl, .inr ⟨rfl, rfl, rfl, rfl, _, fault, hfault, rfl⟩⟩

end

/-- With any renderer, engine and disk, and for every template: a page is made by the engine from
the template's text, or the template is reported as what failed, unless the template is unreadable
or the engine raises an error that is not its own; then the page breaks off. A run that can read its
source and hand out any output delivers its page or ends with a message about its template; it
breaks off without one exactly if it needs such a page. -/
theorem templates_reported_unless_broken_off (tools : Tools) (tree : FileTree) :
    (∀ template body file,
      let path := template.getD Template.standardPath
      (BreaksOff tools.engine tree template body file →
        ∃ fault, renderPage tools.engine tree template body file = .error (.foreign fault)) ∧
      (¬BreaksOff tools.engine tree template body file →
        (∃ source page, IsSource tree template source ∧
          tools.engine.render tree path (Template.escapesFor path.name) source body file =
            .ok page ∧
          renderPage tools.engine tree template body file = .ok page) ∨
        ∃ fault, renderPage tools.engine tree template body file =
          .error (.template path fault))) ∧
    ∀ given arguments settings text, Arguments.parse given = .ok arguments →
      settingsOf arguments = .ok settings →
      '\x00' ∉ (Path.ofText arguments.file).toText →
      tree.read (Path.ofText arguments.file).toText =
        .ok (text.flatMap String.utf8EncodeChar) →
      Accepts tools.disk tree arguments.output →
      let body := Markdown.render tools.markdown (extractDocument settings text)
      let file := (Path.ofText arguments.file).name
      let Broken := arguments.markdown = false ∧
        BreaksOff tools.engine tree settings.template body file
      (Broken → ∃ fault, run tools tree given = .error (.page fault)) ∧
        (¬Broken → ∃ outcome, run tools tree given = .ok outcome ∧
          (Delivers tools settings arguments tree outcome ∨
            Reports tools settings tree body file outcome)) := by
  refine ⟨?_, ?_⟩
  · intro template body file path
    rcases renderPage_cases tools.engine tree template body file with
      ⟨hbreaks, hfault⟩ | ⟨hkeeps, hmade⟩
    · exact ⟨fun _ => hfault, fun h => absurd hbreaks h⟩
    · exact ⟨fun h => absurd h hkeeps, fun _ => hmade⟩
  · intro given arguments settings text hgiven hsettings hpath hread htarget body file Broken
    rw [run_eq_runWith hgiven hsettings]
    rcases runWith_template_cases hpath hread htarget with ⟨hbroken, hbreaks⟩ | ⟨hkeeps, hends⟩
    · exact ⟨fun _ => hbreaks, fun h => absurd hbroken h⟩
    · exact ⟨fun h => absurd h hkeeps, fun _ => hends⟩

/-- A template of one byte that begins no character, one that divides by zero, and one that is not
there. -/
theorem templates_reported_unless_broken_off_of_three :
    let tree : FileTree := ⟨[(⟨.current, ["a".toList]⟩, .file [0x2F, 0x2F, 0x20, 0x78]),
      (⟨.current, ["t".toList]⟩, .file [0xFF]),
      (⟨.current, ["d".toList]⟩, .file (encodeUtf8 "\x7b\x7b 1/0 \x7d\x7d".toList))]⟩
    let dividing : Tools := { Tools.standard with
      engine := ⟨fun _ _ _ _ _ _ =>
        .error (.other "ZeroDivisionError".toList "division by zero".toList)⟩ }
    let settings := fun name => { template := some ⟨.relative, [name]⟩ : Settings }
    let given := fun name => ["a".toList, "--template".toList, name]
    let body := Markdown.render Markdown.basic
      (extractDocument (settings "u".toList) "// x".toList)
    (∃ fault, renderPage Template.engine tree (settings "t".toList).template [] [] =
        .error (.foreign fault)) ∧
      (∃ fault, run .standard tree (given "t".toList) = .error (.page fault)) ∧
      (∃ fault, run dividing tree (given "d".toList) = .error (.page fault)) ∧
      ∃ outcome, run .standard tree (given "u".toList) = .ok outcome ∧
        Reports .standard (settings "u".toList) tree body "a".toList outcome := by
  intro tree dividing settings given body
  have haccepts : ∀ disk, Accepts disk tree none := by
    rintro disk value ⟨⟩
  have hread : tree.read "a".toList = .ok ("// x".toList.flatMap String.utf8EncodeChar) := by
    decide
  have hundecodable : Unreadable tree (settings "t".toList).template := by
    refine .undecodable (by decide) (show tree.read "t".toList = .ok [0xFF] by decide) ?_
    intro text htext
    rw [← encodeUtf8_eq_flatMap] at htext
    have hrun := Decoder.run?_eq_some_none_iff.mpr htext.symm
    have hnone : Decoder.run? none [0xFF] = none := by decide
    cases hnone.symm.trans hrun
  have hdividing : IsSource tree (settings "d".toList).template
      (Line.normalise "\x7b\x7b 1/0 \x7d\x7d".toList) := .file (by decide) (by decide)
  have hmissing : templateSource tree (settings "u".toList).template = .error
      (.template ⟨.relative, ["u".toList]⟩ (.notFound "u".toList ".".toList)) := by decide
  obtain ⟨hpages, hruns⟩ := templates_reported_unless_broken_off .standard tree
  refine ⟨(hpages _ [] []).1 (.inl hundecodable), ?_, ?_, ?_⟩
  · exact (hruns (given "t".toList) { file := "a".toList, template := some (some "t".toList) }
      (settings "t".toList) "// x".toList (by decide +kernel) (by decide +kernel) (by decide) hread
      (haccepts _)).1 ⟨rfl, .inl hundecodable⟩
  · exact ((templates_reported_unless_broken_off dividing tree).2 (given "d".toList)
      { file := "a".toList, template := some (some "d".toList) } (settings "d".toList)
      "// x".toList (by decide +kernel) (by decide +kernel) (by decide) hread (haccepts _)).1
      ⟨rfl, .inr ⟨_, _, _, hdividing, rfl⟩⟩
  · obtain ⟨outcome, hrun, hdelivered | hreported⟩ := (hruns (given "u".toList)
      { file := "a".toList, template := some (some "u".toList) } (settings "u".toList)
      "// x".toList (by decide +kernel) (by decide +kernel) (by decide) hread (haccepts _)).2 (by
        rintro ⟨-, hunreadable | ⟨source, -, -, hsource, -⟩⟩
        · obtain ⟨fault, hfault⟩ := hunreadable.templateSource
          cases hmissing.symm.trans hfault
        · cases hmissing.symm.trans hsource.templateSource)
    · obtain ⟨-, page, ⟨-, text, -, hpage⟩, -⟩ := hdelivered
      have hfailed : ∀ body file, renderPage Template.engine tree (settings "u".toList).template
          body file = .error
            (.template ⟨.relative, ["u".toList]⟩ (.notFound "u".toList ".".toList)) := by
        intro body file
        rw [renderPage, hmissing]
        rfl
      cases (hfailed _ _).symm.trans hpage
    · exact ⟨outcome, hrun, hreported⟩

end Command

end SlashDoc
