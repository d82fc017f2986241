import SlashDoc.Log
import SlashDoc.Proofs.SnapshotCounters
import SlashDoc.Proofs.TextPieces

/-!
# Settings as they are stored

What is stored of accepted settings is accepted again and gives the same settings. A path is stored
in normal form and a level by its name in upper case. A rule rereads its values if it accepts
everything that it gave, and the rules of all five fields do.
-/
namespace SlashDoc

open Text

theorem Anchor.ofText_toText_append (anchor : Anchor) {text : Text} (h : text.head? ≠ some '/') :
    Anchor.ofText (anchor.toText ++ text) = anchor := by
  rcases text with _ | ⟨c, text⟩
  · cases anchor <;> rfl
  · have hc : c ≠ '/' := by simpa using h
    cases anchor <;> simp [toText, Anchor.ofText, hc]

namespace Path

structure Normal (path : Path) : Prop where
  named : ∀ name ∈ path.names, isName name = true
  slash : ∀ name ∈ path.names, '/' ∉ name

theorem normal_ofText (text : Text) : (ofText text).Normal := by
  constructor
  · intro name hname
    exact (List.mem_filter.mp hname).2
  · intro name hname
    exact notMem_of_mem_splitOn (List.mem_filter.mp hname).1

theorem ne_nil_of_isName {name : Text} (h : isName name = true) : name ≠ [] := by
  rintro rfl
  cases h

/-- The slashes of an anchor only add empty names, which are dropped. -/
theorem filter_splitOn_anchor (anchor : Anchor) (text : Text) :
    (splitOn '/' (anchor.toText ++ text)).filter isName = (splitOn '/' text).filter isName := by
  cases anchor with
  | relative => rfl
  | root => simp [Anchor.toText, splitOn, isName]
  | doubleRoot => simp [Anchor.toText, splitOn, isName]

theorem Normal.ofText_toText {path : Path} (h : path.Normal) : ofText path.toText = path := by
  obtain ⟨anchor, names⟩ := path
  rcases names with _ | ⟨name, names⟩
  · cases anchor <;> rfl
  · have hname := ne_nil_of_isName (h.named name List.mem_cons_self)
    have hslash := h.slash name List.mem_cons_self
    obtain ⟨c, rest, rfl⟩ := List.exists_cons_of_ne_nil hname
    -- The written names begin with a character of the first one, so the anchor is not longer.
    have hwritten := intercalate_singleton_cons '/' (c :: rest) names
    have hhead : (List.intercalate ['/'] ((c :: rest) :: names)).head? ≠ some '/' := by
      rw [hwritten, List.cons_append, List.head?_cons]
      rintro ⟨⟩
      exact hslash List.mem_cons_self
    have htext : toText ⟨anchor, (c :: rest) :: names⟩ =
        anchor.toText ++ List.intercalate ['/'] ((c :: rest) :: names) := by
      unfold toText
      split
      · rename_i heq
        rw [hwritten] at heq
        simp at heq
      · rfl
    have hnames : (splitOn '/' (anchor.toText ++
        List.intercalate ['/'] ((c :: rest) :: names))).filter isName = (c :: rest) :: names := by
      rw [filter_splitOn_anchor, splitOn_intercalate (List.cons_ne_nil _ _) h.slash,
        List.filter_eq_self]
      exact h.named
    rw [htext, ofText, Anchor.ofText_toText_append anchor hhead, hnames]

end Path

namespace Level

theorem ofName?_name (level : Level) : ofName? level.name = some level := by
  cases level <;> rfl

theorem toUpper_name (level : Level) : toUpper level.name = level.name := by
  cases level <;> decide +kernel

theorem parse?_eq_some_iff {text : Text} {level : Level} :
    parse? text = some level ↔ level.name = toUpper text := by
  constructor
  · intro h
    simpa using List.find?_some h
  · intro h
    rw [parse?, ← h, ofName?_name]

theorem parse?_name (level : Level) : parse? level.name = some level :=
  parse?_eq_some_iff.mpr (toUpper_name level).symm

end Level

/-- Whatever the rule gives, and the default of its field, it gives again for the written form. -/
structure Rule.Rereads {α : Type} (rule : Rule α) (write : α → Value) (default : α) : Prop where
  given : ∀ {location value a}, rule location value = .ok a →
    ∀ other, rule other (write a) = .ok a
  default : ∀ location, rule location (write default) = .ok default

theorem Rule.Rereads.optional {α : Type} {rule : Rule α} {write : α → Value} {default a : α}
    {fields : Fields} {name : String} (h : rule.Rereads write default)
    (hread : Fields.optional fields name rule default = .ok a) (location : Text) :
    rule location (write a) = .ok a := by
  unfold Fields.optional at hread
  split at hread
  · obtain rfl := Except.ok.inj hread
    exact h.default location
  · exact h.given hread location

namespace Rule

theorem rereads_text (default : Text) : text.Rereads Value.text default := by
  refine ⟨?_, fun location => rfl⟩
  intro location value a h other
  rfl

theorem rereads_nonEmptyText {default : Text} (hdefault : default ≠ []) :
    nonEmptyText.Rereads Value.text default := by
  have hkept : ∀ a : Text, a ≠ [] → ∀ location, nonEmptyText location (.text a) = .ok a := by
    intro a ha location
    obtain ⟨c, rest, rfl⟩ := List.exists_cons_of_ne_nil ha
    rfl
  refine ⟨?_, hkept default hdefault⟩
  intro location value a h
  apply hkept
  rintro rfl
  unfold nonEmptyText at h
  split at h
  · cases h
  · rename_i hne
    exact hne (Except.ok.inj h)
  · cases h

def writePath (path : Option Path) : Value :=
  (path.map fun path => Value.text path.toText).getD .null

theorem rereads_optionalPath : optionalPath.Rereads writePath none := by
  refine ⟨?_, fun location => rfl⟩
  intro location value path h other
  unfold optionalPath at h
  split at h
  · obtain rfl := Except.ok.inj h
    rfl
  · rename_i text
    obtain rfl := Except.ok.inj h
    have hnormal := (Path.normal_ofText text).ofText_toText
    exact congrArg (fun path => Except.ok (some path)) hnormal
  · cases h

theorem rereads_flag (default : Bool) : flag.Rereads Value.flag default := by
  refine ⟨?_, fun location => rfl⟩
  intro location value a h other
  rfl

end Rule

namespace Settings

theorem levelRule_text (location : Text) (level : Level) :
    levelRule location (.text level.name) = .ok level := by
  simp only [levelRule, Level.parse?_name]

theorem levelRule_eq_ok {location text : Text} {level : Level}
    (h : levelRule location (.text text) = .ok level) : level.name = toUpper text := by
  apply Level.parse?_eq_some_iff.mp
  cases hparse : Level.parse? text with
  | none =>
    simp only [levelRule, hparse] at h
    cases h
  | some found =>
    simp only [levelRule, hparse] at h
    rw [Except.ok.inj h]

theorem rereads_levelRule (default : Level) :
    Rule.Rereads levelRule (fun level => .text level.name) default := by
  refine ⟨?_, fun location => levelRule_text location default⟩
  intro location value level h other
  exact levelRule_text other level

/-- Settings are accepted if each of their fields is. -/
theorem ofFields_eq_ok_iff {fields : Fields} {settings : Settings} :
    ofFields fields = .ok settings ↔
      Fields.optional fields "signature_separator" Rule.nonEmptyText "::".toList =
        .ok settings.separator ∧
      Fields.optional fields "table_class" Rule.text "sig".toList = .ok settings.tableClass ∧
      Fields.optional fields "template_path" Rule.optionalPath none = .ok settings.template ∧
      Fields.optional fields "log_level" levelRule .warning = .ok settings.level ∧
      Fields.optional fields "json_logs" Rule.flag false = .ok settings.jsonLogs := by
  unfold ofFields
  simp only [Checked.and_eq_ok_iff]
  constructor
  · rintro ⟨_, jsonLogs, ⟨_, level, ⟨_, template, ⟨_, tableClass, hseparator, htable, rfl⟩, hpath,
      rfl⟩, hlevel, rfl⟩, hlogs, rfl⟩
    cases hread : Fields.optional fields "signature_separator" Rule.nonEmptyText "::".toList with
    | error problems =>
      rw [hread] at hseparator
      cases hseparator
    | ok separator =>
      rw [hread] at hseparator
      cases hseparator
      exact ⟨rfl, htable, hpath, hlevel, hlogs⟩
  · rintro ⟨hseparator, htable, hpath, hlevel, hlogs⟩
    have hfirst := congrArg (Except.map Settings.mk) hseparator
    exact ⟨_, _, ⟨_, _, ⟨_, _, ⟨_, _, hfirst, htable, rfl⟩, hpath, rfl⟩, hlevel, rfl⟩, hlogs, rfl⟩

theorem ofFields_toFields {fields : Fields} {settings : Settings}
    (h : ofFields fields = .ok settings) : ofFields settings.toFields = .ok settings := by
  obtain ⟨hseparator, htable, hpath, hlevel, hlogs⟩ := ofFields_eq_ok_iff.mp h
  rw [ofFields_eq_ok_iff]
  refine ⟨?_, ?_, ?_, ?_, ?_⟩
  · exact (Rule.rereads_nonEmptyText (by decide)).optional hseparator "signature_separator".toList
  · exact (Rule.rereads_text _).optional htable "table_class".toList
  · exact Rule.rereads_optionalPath.optional hpath "template_path".toList
  · exact (rereads_levelRule _).optional hlevel "log_level".toList
  · exact (Rule.rereads_flag _).optional hlogs "json_logs".toList

end Settings

namespace Log

theorem lookup_constants_name (level : Level) :
    constants.lookup level.name = some (.level level.threshold) := by
  cases level <;> decide

/-- The constants that are numbers are those of the levels that settings accept. -/
theorem lookup_constants_eq_level_iff {name : Text} {value : ℕ} :
    constants.lookup name = some (.level value) ↔
      ∃ level, Level.ofName? name = some level ∧ level.threshold = value := by
  constructor
  · intro h
    obtain ⟨before, after, hconstants, -⟩ := List.lookup_eq_some_iff.mp h
    have hmem : (name, Constant.level value) ∈ constants := by simp [hconstants]
    simp only [constants, List.map_cons, List.map_nil, List.mem_cons, Prod.mk.injEq,
      List.not_mem_nil, or_false, reduceCtorEq, and_false] at hmem
    rcases hmem with h | h | h | h | h | h | h | h <;> obtain ⟨rfl, ⟨⟩⟩ := h
    · exact ⟨.critical, by decide, rfl⟩
    · exact ⟨.fatal, by decide, rfl⟩
    · exact ⟨.error, by decide, rfl⟩
    · exact ⟨.warning, by decide, rfl⟩
    · exact ⟨.warn, by decide, rfl⟩
    · exact ⟨.info, by decide, rfl⟩
    · exact ⟨.debug, by decide, rfl⟩
    · exact ⟨.notSet, by decide, rfl⟩
  · rintro ⟨level, hlevel, rfl⟩
    have hname : level.name = name := by simpa using List.find?_some hlevel
    rw [← hname, lookup_constants_name]

theorem configure_name (level : Level) (json forPeople : Bool) :
    configure level.name json forPeople = .ok ⟨level.threshold, Form.choose json forPeople⟩ := by
  have hconstant := lookup_constants_eq_level_iff.mpr ⟨level, level.ofName?_name, rfl⟩
  simp only [configure, level.toUpper_name, hconstant]

end Log

/-- Accepted settings are stored in a form that is accepted again and gives the same settings, and a
log can be set up for the stored level. -/
theorem stored_settings_accepted_again :
    (∀ fields settings, Settings.ofFields fields = .ok settings →
      Settings.ofFields settings.toFields = .ok settings ∧
        ∀ json forPeople, Log.configure settings.level.name json forPeople =
          .ok ⟨settings.level.threshold, Log.Form.choose json forPeople⟩) ∧
      (∀ text, Path.ofText (Path.ofText text).toText = Path.ofText text) ∧
      ∀ location text level, Settings.levelRule location (.text text) = .ok level →
        level.name = toUpper text ∧ toUpper level.name = level.name ∧
          Settings.levelRule location (.text level.name) = .ok level := by
  refine ⟨?_, ?_, ?_⟩
  · intro fields settings h
    exact ⟨Settings.ofFields_toFields h, Log.configure_name settings.level⟩
  · intro text
    exact (Path.normal_ofText text).ofText_toText
  · intro location text level h
    exact ⟨Settings.levelRule_eq_ok h, level.toUpper_name, Settings.levelRule_text location level⟩

/-- Two slashes stay in front of a path, and a long s is the small form of a capital letter. -/
theorem stored_settings_accepted_again_after_long_s :
    let fields : Fields := [("template_path", .text "//.//a/../b/.".toList),
      ("log_level", .text "notſet".toList), ("json_logs", .text "YES".toList)]
    let settings : Settings :=
      { template := some ⟨.doubleRoot, ["a".toList, "..".toList, "b".toList]⟩, level := .notSet,
        jsonLogs := true }
    Settings.ofFields fields = .ok settings ∧
      (Settings.ofFields settings.toFields = .ok settings ∧
        Log.configure "NOTSET".toList true false = .ok ⟨0, .json⟩) ∧
      Settings.levelRule [] (.text "notſet".toList) = .ok .notSet ∧
      toUpper "notſet".toList = "NOTSET".toList ∧
      Settings.levelRule [] (.text "NOTSET".toList) = .ok .notSet := by
  intro fields settings
  have hfields : Settings.ofFields fields = .ok settings := by decide +kernel
  have hlevel : Settings.levelRule [] (.text "notſet".toList) = .ok .notSet := by decide +kernel
  obtain ⟨hsettings, -, hlevels⟩ := stored_settings_accepted_again
  obtain ⟨hagain, hconfigure⟩ := hsettings fields settings hfields
  obtain ⟨hname, -, hkept⟩ := hlevels _ _ _ hlevel
  exact ⟨hfields, ⟨hagain, hconfigure true false⟩, hlevel, hname.symm, hkept⟩

end SlashDoc
