import SlashDoc.Command.Run
import SlashDoc.Proofs.DebugLog
import SlashDoc.Proofs.FileChunks

/-!
# What a run of the command leaves behind

A run that fails leaves no output and the files as they were. A run that succeeds leaves its output
in one place: printed, or in the file it was asked for.
-/

namespace SlashDoc

namespace FileTree

variable {tree changed : FileTree} {path : Text} {place target : Place} {bytes : List UInt8}

/-- The second tree is the first with these bytes as the file at one place. -/
structure Rewrites (target : Place) (bytes : List UInt8) (tree changed : FileTree) : Prop where
  replaced : tree.node? target ≠ some .directory
  node : changed.node? target = some (.file bytes)
  others : ∀ place, place ≠ target → changed.node? place = tree.node? place

theorem rewrites_put (bytes : List UInt8) (h : tree.node? target ≠ some .directory) :
    Rewrites target bytes tree (tree.put target bytes) := by
  obtain ⟨base, names⟩ := target
  cases names with
  | nil => exact absurd rfl h
  | cons name names =>
    refine ⟨h, List.lookup_cons_self, fun place hplace => ?_⟩
    obtain ⟨other, pieces⟩ := place
    cases pieces with
    | nil => rfl
    | cons piece pieces =>
      rw [put, node?, node?, List.lookup_cons, beq_eq_false_iff_ne.mpr hplace]

theorem writable_eq_ok (h : tree.writable path = .ok target) :
    tree.resolve path = .ok target ∧ tree.node? target ≠ some .directory := by
  unfold writable at h
  cases hresolve : tree.resolve path with
  | error fault => rw [hresolve] at h; cases h
  | ok found =>
    rw [hresolve] at h
    dsimp only [bind, Except.bind] at h
    split at h
    · cases h
    · cases h
    · next hnode _ =>
      cases h
      exact ⟨rfl, hnode⟩

/-- A path is followed through directories only, and none of them is rewritten. -/
theorem Rewrites.follow (h : Rewrites target bytes tree changed) {pieces : List Text}
    {found : Place} (hfound : tree.follow place pieces = .ok found) :
    changed.follow place pieces = .ok found := by
  -- what was rewritten was no directory, so all directories on the way are still there
  have hdirectory : ∀ place, tree.node? place = some .directory →
      changed.node? place = some .directory := by
    intro place hplace
    rw [h.others place fun heq => h.replaced (heq ▸ hplace), hplace]
  fun_induction FileTree.follow tree place pieces with
  | case1 place => exact hfound
  | case2 | case3 | case4 | case6 => cases hfound
  | case5 place rest hplace ih =>
    rw [FileTree.follow, hdirectory place hplace]
    exact ih hfound
  | case7 place piece rest hplace hup hlong hname ih =>
    rw [FileTree.follow, hdirectory place hplace]
    dsimp only
    rw [if_neg hup, if_neg hlong, if_pos hname]
    exact ih hfound
  | case8 place piece rest hplace hup hlong hname ih =>
    rw [FileTree.follow, hdirectory place hplace]
    dsimp only
    rw [if_neg hup, if_neg hlong, if_neg hname]
    exact ih hfound

theorem Rewrites.resolve (h : Rewrites target bytes tree changed) {found : Place}
    (hfound : tree.resolve path = .ok found) : changed.resolve path = .ok found := by
  unfold FileTree.resolve at hfound ⊢
  split at hfound
  · cases hfound
  · next hlength =>
    rw [if_neg hlength]
    split at hfound
    · cases hfound
    · exact h.follow hfound
    · exact h.follow hfound

theorem Rewrites.read (h : Rewrites target bytes tree changed)
    (hpath : tree.resolve path = .ok target) : changed.read path = .ok bytes := by
  rw [FileTree.read, h.resolve hpath]
  dsimp only [bind, Except.bind]
  rw [h.node]

end FileTree

/-- The document of a file does not depend on what is logged. -/
theorem extractFile_debug (settings : Settings) (tree : FileTree) (path : Text) (debug : Bool) :
    (extractFile settings tree path debug).2 = (extractFile settings tree path).2 := by
  unfold extractFile
  obtain ⟨chunks, fault⟩ := readChunks tree path .standard .utf8
  cases fault with
  | some fault => rfl
  | none =>
    have hdocument := congrArg Stream.document (Stream.silent_ofChunks settings chunks debug)
    exact congrArg Except.ok hdocument

section

variable {settings : Settings} {tree : FileTree} {path document : Text} {debug : Bool}

theorem extractFile_of_encodeUtf8 (h : '\x00' ∉ path) {text : Text}
    (hread : tree.read path = .ok (encodeUtf8 text)) :
    (extractFile settings tree path debug).2 = .ok (extractDocument settings text) := by
  obtain ⟨chunks, hchunks, rfl, -⟩ := readChunks_of_encodeUtf8 h hread
    (show 1 ≤ 65536 by decide)
  rw [extractFile_debug, extractFile_of_none hchunks]

/-- A file has a document if its bytes are those of a text. -/
theorem extractFile_eq_ok_iff :
    (extractFile settings tree path debug).2 = .ok document ↔
      '\x00' ∉ path ∧ ∃ text, tree.read path = .ok (encodeUtf8 text) ∧
        document = extractDocument settings text := by
  constructor
  · intro h
    -- what a document rules out: a path that cannot be one, no file, and bytes of no text
    rw [extractFile_debug] at h
    have hpath : '\x00' ∉ path := by
      intro hmem
      rw [extractFile_of_some (readChunks_of_mem hmem _ _)] at h
      cases h
    obtain ⟨bytes, hread⟩ : ∃ bytes, tree.read path = .ok bytes := by
      cases hread : tree.read path with
      | ok bytes => exact ⟨bytes, rfl⟩
      | error fault =>
        rw [extractFile_of_some (readChunks_of_error hpath hread _ _)] at h
        cases h
    obtain ⟨text, rfl⟩ : ∃ text, encodeUtf8 text = bytes := by
      by_contra hnone
      obtain ⟨chunks, fault, hchunks, -⟩ := readChunks_of_forall_ne hpath hread
        (not_exists.mp hnone) (show 1 ≤ 65536 by decide)
      rw [extractFile_of_some hchunks] at h
      cases h
    rw [extractFile_of_encodeUtf8 hpath hread] at h
    exact ⟨hpath, text, hread, (Except.ok.inj h).symm⟩
  · rintro ⟨hpath, text, hread, rfl⟩
    exact extractFile_of_encodeUtf8 hpath hread

end

namespace Command

/-- The page of a source file: the file holds the bytes of a text, and the page is the document of
that text, or what the template makes of it. -/
def IsPage (tools : Tools) (settings : Settings) (tree : FileTree) (file : Path) (markdown : Bool)
    (page : Text) : Prop :=
  '\x00' ∉ file.toText ∧ ∃ text : Text,
    tree.read file.toText = .ok (text.flatMap String.utf8EncodeChar) ∧
      if markdown then page = extractDocument settings text
      else renderPage tools.engine tree settings.template
        (Markdown.render tools.markdown (extractDocument settings text)) file.name = .ok page

section

variable {tools : Tools} {settings : Settings} {tree : FileTree} {file : Path} {markdown : Bool}
variable {page : Text} {arguments : Arguments} {outcome : Outcome}

theorem convert_of_ok {document : Text}
    (h : (extractFile settings tree file.toText settings.debug).2 = .ok document) :
    (convert tools settings tree file markdown).2 =
      if markdown then .ok document
      else (renderPage tools.engine tree settings.template
        (Markdown.render tools.markdown document) file.name).mapError Halt.ofPage := by
  unfold convert
  generalize extractFile settings tree file.toText settings.debug = extracted at h ⊢
  obtain ⟨events, result⟩ := extracted
  cases h
  cases markdown with
  | true => rfl
  | false =>
    simp only [Bool.false_eq_true, if_false]
    cases renderPage tools.engine tree settings.template
      (Markdown.render tools.markdown document) file.name with
    | ok made => rfl
    | error fault => rfl

theorem convert_of_error {fault : ReadFault}
    (h : (extractFile settings tree file.toText settings.debug).2 = .error fault) :
    (convert tools settings tree file markdown).2 = .error (.ofRead file.toText fault) := by
  unfold convert
  generalize extractFile settings tree file.toText settings.debug = extracted at h ⊢
  obtain ⟨events, result⟩ := extracted
  cases h
  rfl

theorem mapError_eq_ok_iff {ε δ α : Type} {f : ε → δ} {result : Except ε α} {a : α} :
    result.mapError f = .ok a ↔ result = .ok a := by
  cases result <;> simp [Except.mapError]

theorem convert_eq_ok_iff :
    (convert tools settings tree file markdown).2 = .ok page ↔
      IsPage tools settings tree file markdown page := by
  unfold IsPage
  simp only [← encodeUtf8_eq_flatMap]
  constructor
  · intro h
    cases hfile : (extractFile settings tree file.toText settings.debug).2 with
    | error fault =>
      rw [convert_of_error hfile] at h
      cases h
    | ok document =>
      obtain ⟨hpath, text, hread, rfl⟩ := extractFile_eq_ok_iff.mp hfile
      refine ⟨hpath, text, hread, ?_⟩
      rw [convert_of_ok hfile] at h
      cases markdown with
      | true => exact (Except.ok.inj h).symm
      | false => exact mapError_eq_ok_iff.mp h
  · rintro ⟨hpath, text, hread, hpage⟩
    rw [convert_of_ok (extractFile_of_encodeUtf8 hpath hread)]
    cases markdown with
    | true => exact congrArg Except.ok hpage.symm
    | false => exact mapError_eq_ok_iff.mpr hpage

inductive Emits (disk : Disk) (tree : FileTree) (output : Text) :
    Option SwitchValue → Handout → Prop
  | prints : Emits disk tree output none { printed := output, tree }
  | noPath : Emits disk tree output (some none)
      { tree, halt := some (.breakdown .noOutputPath) }
  | nullPath {path : Text} (hpath : '\x00' ∈ (Path.ofText path).toText) :
      Emits disk tree output (some (some path)) { tree, halt := some (.breakdown .nullCharacter) }
  | refused {path : Text} {fault : PathFault}
      (hplace : tree.writable (Path.ofText path).toText = .error fault) :
      Emits disk tree output (some (some path))
        { tree, halt := some (unwritten (Path.ofText path) (.path fault)) }
  | writes {path : Text} {place : Place}
      (hplace : tree.writable (Path.ofText path).toText = .ok place)
      (htaken : disk.breaksOff (Path.ofText path).toText (encodeUtf8 output) = none) :
      Emits disk tree output (some (some path))
        { tree := tree.put place (encodeUtf8 output)
          written := some ((Path.ofText path).toText, encodeUtf8 output) }
  | breaksOff {path : Text} {place : Place} {count : ℕ} {message : Text}
      (hplace : tree.writable (Path.ofText path).toText = .ok place)
      (hbroken : disk.breaksOff (Path.ofText path).toText (encodeUtf8 output) =
        some (count, message)) :
      Emits disk tree output (some (some path))
        { tree := tree.put place ((encodeUtf8 output).take count)
          written := some ((Path.ofText path).toText, (encodeUtf8 output).take count)
          halt := some (unwritten (Path.ofText path) (.brokenOff message)) }

theorem emits (disk : Disk) (tree : FileTree) (target : Option SwitchValue) (output : Text) :
    Emits disk tree output target (emit disk tree target output) := by
  rcases target with _ | _ | path
  · exact .prints
  · exact .noPath
  · rw [emit, writeOutput]
    by_cases hpath : '\x00' ∈ (Path.ofText path).toText
    · rw [if_pos (List.contains_iff_mem.mpr hpath)]
      exact .nullPath hpath
    · rw [if_neg fun h => hpath (List.contains_iff_mem.mp h), FileTree.write]
      cases hplace : tree.writable (Path.ofText path).toText with
      | error fault => exact .refused hplace
      | ok place =>
        dsimp only
        cases hbroken : disk.breaksOff (Path.ofText path).toText (encodeUtf8 output) with
        | none => exact .writes hplace hbroken
        | some stored => exact .breaksOff hplace hbroken

theorem runWith_eq_map (tools : Tools) (settings : Settings) (arguments : Arguments)
    (tree : FileTree) :
    let converted := convert tools settings tree (Path.ofText arguments.file) arguments.markdown
    runWith tools settings arguments tree =
      (settle (handOut tools.disk tree arguments.output converted.2)).map fun outcome =>
        { outcome with
          events := (converted.1 ++ outcome.events).filter (Log.shows settings.level)
          jsonLogs := settings.jsonLogs } := by
  intro converted
  unfold runWith
  cases hsettled : settle (handOut tools.disk tree arguments.output converted.2) with
  | error breakdown => simp [converted, bind, Except.bind, hsettled, Except.map]
  | ok settled => simp [converted, bind, Except.bind, hsettled, Except.map, pure, Except.pure]

theorem run_eq_runWith {given : List Text} (hgiven : Arguments.parse given = .ok arguments)
    (hsettings : settingsOf arguments = .ok settings) :
    run tools tree given = runWith tools settings arguments tree := by
  rw [run, hgiven]
  dsimp only
  rw [hsettings]

end

end Command

end SlashDoc
