import SlashDoc.Proofs.ExtractionRun
import SlashDoc.Proofs.FunctionShapes

/-!
# The headings that function lines give

A parameter list is read up to the last closing parenthesis of its line, wherever that stands, and
a bound function is looked for in the whole line before a named one. So a block is headed by the
name and the parameters of the function behind it exactly if nothing after the parameters closes
another parenthesis.
-/
namespace SlashDoc

open Text

def parenthesised (params : Text) : Text :=
  '(' :: params ++ [')']

theorem parameterList?_parenthesised {params rest : Text} (hparams : '\n' ∉ params)
    (hrest : '\n' ∉ rest) :
    parameterList? (parenthesised params ++ rest) =
      some (parenthesised params ++ throughLast ')' rest) := by
  have hline : ((params ++ ')' :: rest).takeWhile (· != '\n')) = params ++ ')' :: rest := by
    rw [List.takeWhile_eq_self_iff]
    exact bne_of_notMem (by simp [hparams, hrest])
  have hinner : dropEndWhile (· != ')') ((params ++ ')' :: rest).takeWhile (· != '\n')) =
      params ++ ')' :: throughLast ')' rest := by
    rw [hline]
    exact throughLast_append_cons ')' params rest
  simp only [parenthesised, List.cons_append, List.append_assoc, List.nil_append, parameterList?,
    hinner]
  cases params <;> rfl

theorem isParameterList_parenthesised {params : Text} (h : '\n' ∉ params) :
    IsParameterList (parenthesised params) :=
  ⟨params, rfl, h⟩

namespace BoundFunction

def line (target params rest : Text) : Text :=
  target ++ " = function".toList ++ parenthesised params ++ rest

theorem start?_line {target params rest : Text} (hne : target ≠ [])
    (htarget : ∀ c ∈ target, isNameChar c = true) (hparams : '\n' ∉ params)
    (hrest : '\n' ∉ rest) :
    start? (line target params rest) =
      some ⟨target, [' '], [' '], [], parenthesised params ++ throughLast ')' rest⟩ := by
  have hblank : ∀ c ∈ [' '], isBlank c = true := List.forall_mem_singleton.mpr (by decide)
  have hfiller : ∀ c ∈ [' '], isWord c = false := List.forall_mem_singleton.mpr (by decide)
  have hfits : Fits ⟨target, [' '], [' '], [], parenthesised params⟩ :=
    ⟨hne, htarget, hblank, hfiller, by simp, isParameterList_parenthesised hparams⟩
  have hline : line target params rest =
      BoundFunction.text ⟨target, [' '], [' '], [], parenthesised params⟩ ++ rest := by
    simp [line, BoundFunction.text]
  rw [hline, hfits.start?_eq, parameterList?_parenthesised hparams hrest]
  rfl

/-- Behind the equals sign of a bound function, a parenthesis is closed. -/
theorem exists_equals_of_start? {text : Text} {found : BoundFunction}
    (h : start? text = some found) : ∃ front back, text = front ++ '=' :: back ∧ ')' ∈ back := by
  obtain ⟨hfits, after, rfl, -⟩ := start?_eq_some_iff.mp h
  obtain ⟨inner, hparams, -⟩ := hfits.params
  refine ⟨found.name ++ found.gap,
    found.filler ++ "function".toList ++ found.space ++ found.params ++ after, ?_, ?_⟩
  · simp [BoundFunction.text]
  · simp [hparams]

/-- No bound function is found where the last equals sign comes too late for a parameter list. -/
theorem search_start?_eq_none {front back : Text} (hfront : '=' ∉ front) (hback : ')' ∉ back) :
    search start? (front ++ back) = none := by
  rw [search_eq_none_iff]
  rintro text ⟨before, hbefore⟩
  cases h : start? text with
  | none => rfl
  | some found =>
    obtain ⟨name, rest, rfl, hmem⟩ := exists_equals_of_start? h
    rw [← List.append_assoc] at hbefore
    obtain ⟨middle, hmiddle, hrest⟩ | ⟨middle, hmiddle, hrest⟩ :=
      List.append_eq_append_iff.mp hbefore
    · cases middle with
      | nil =>
        rw [List.nil_append] at hrest
        exact absurd (hrest ▸ List.mem_cons_of_mem '=' hmem) hback
      | cons c middle =>
        obtain ⟨rfl, -⟩ := List.cons.inj hrest
        exact absurd (hmiddle ▸ List.mem_append_right _ List.mem_cons_self) hfront
    · exact absurd (hrest ▸ List.mem_append_right _ (List.mem_cons_of_mem '=' hmem)) hback

end BoundFunction

namespace NamedFunction

def line (name params rest : Text) : Text :=
  "function".toList ++ [' '] ++ name ++ parenthesised params ++ rest

theorem start?_line {name params rest : Text} (hne : name ≠ [])
    (hname : ∀ c ∈ name, isNameChar c = true) (hparams : '\n' ∉ params) (hrest : '\n' ∉ rest) :
    start? (line name params rest) =
      some ⟨[' '], name, [], parenthesised params ++ throughLast ')' rest⟩ := by
  have hblank : ∀ c ∈ [' '], isBlank c = true := List.forall_mem_singleton.mpr (by decide)
  have hfits : Fits ⟨[' '], name, [], parenthesised params⟩ :=
    ⟨by simp, hblank, hne, hname, by simp, isParameterList_parenthesised hparams⟩
  have hline : line name params rest =
      NamedFunction.text ⟨[' '], name, [], parenthesised params⟩ ++ rest := by
    unfold line NamedFunction.text
    simp only [List.append_assoc, List.nil_append]
  rw [hline, hfits.start?_eq, parameterList?_parenthesised hparams hrest]
  rfl

end NamedFunction

theorem Comment.body?_eq_none {c : Char} {rest : Text} (hblank : isBlank c = false)
    (hslashes : ¬['/', '/'] <+: c :: rest) : body? (c :: rest) = none := by
  have hshort : ((c :: rest).takeWhile (· == '/')).length < 2 := by
    by_contra hlong
    apply hslashes
    cases rest with
    | nil => by_cases hc : c = '/' <;> simp [hc] at hlong
    | cons d rest =>
      by_cases hc : c = '/' <;> by_cases hd : d = '/' <;> simp [hc, hd] at hlong ⊢
  simp [body?, ofLine?, hblank, hshort]

theorem NamedFunction.body?_line (name params rest : Text) :
    Comment.body? (line name params rest) = none := by
  apply Comment.body?_eq_none
  · decide
  · intro hprefix
    have hc : '/' = 'f' := (List.cons_prefix_cons.mp hprefix).1
    exact absurd hc (by decide)

theorem BoundFunction.body?_line {target : Text} (hne : target ≠ [])
    (htarget : ∀ c ∈ target, isNameChar c = true) (hslashes : ¬['/', '/'] <+: target)
    (params rest : Text) : Comment.body? (line target params rest) = none := by
  obtain ⟨c, target, rfl⟩ := List.exists_cons_of_ne_nil hne
  have hc := htarget c List.mem_cons_self
  simp only [isNameChar, Bool.and_eq_true, Bool.not_eq_true'] at hc
  apply Comment.body?_eq_none hc.1
  intro hprefix
  -- A target that is one slash does not make a comment with the space behind it.
  cases target with
  | nil =>
    have hspace : '/' = ' ' := (List.cons_prefix_cons.mp (List.cons_prefix_cons.mp hprefix).2).1
    exact absurd hspace (by decide)
  | cons d target =>
    apply hslashes
    have hfirst := List.cons_prefix_cons.mp hprefix
    have hsecond : '/' = d := (List.cons_prefix_cons.mp hfirst.2).1
    rw [← hfirst.1, ← hsecond]
    exact List.prefix_append ['/', '/'] target

namespace CodeLine

/-- How a line of code that opens a function closes a block, and the parts of the heading. -/
def function? : CodeLine → Option (Closing × Text × Text)
  | boundFunction name params => some (.boundFunction, name, params)
  | namedFunction name params => some (.namedFunction, name, params)
  | blank | other => none

theorem classify_boundLine {target params rest : Text} (hne : target ≠ [])
    (htarget : ∀ c ∈ target, BoundFunction.isNameChar c = true) (hparams : '\n' ∉ params)
    (hrest : '\n' ∉ rest) :
    classify (BoundFunction.line target params rest) =
      .boundFunction target (parenthesised params ++ throughLast ')' rest) := by
  have hfound := search_of_some (BoundFunction.start?_line hne htarget hparams hrest)
  have hblank : isBlankText (BoundFunction.line target params rest) = false := by
    rw [isBlankText, List.all_eq_false]
    refine ⟨')', ?_, by decide⟩
    simp [BoundFunction.line, parenthesised]
  simp [classify, hblank, hfound]

theorem classify_namedLine {name params rest : Text} (hne : name ≠ [])
    (hname : ∀ c ∈ name, NamedFunction.isNameChar c = true) (hparams : '\n' ∉ params)
    (hrest : '\n' ∉ rest) :
    classify (NamedFunction.line name params rest) =
      match search BoundFunction.start? (NamedFunction.line name params rest) with
      | some (_, found) => .boundFunction found.name found.params
      | none => .namedFunction name (parenthesised params ++ throughLast ')' rest) := by
  have hfound := search_of_some (NamedFunction.start?_line hne hname hparams hrest)
  have hblank : isBlankText (NamedFunction.line name params rest) = false := rfl
  cases hbound : search BoundFunction.start? (NamedFunction.line name params rest) <;>
    simp [classify, hblank, hbound, hfound]

end CodeLine

def Step.HeadedBy (step : Step) (closing : Closing) (heading : Text) : Prop :=
  ∃ block, step.block = some block ∧ block.closing = closing ∧ block.heading = some heading

namespace Snapshot

variable {settings : Settings} {snapshot : Snapshot} {line name params rest : Text}

theorem headedBy_step_iff (hopen : snapshot.status = .inBlock)
    (hpending : snapshot.hasPending = true) (hbody : Comment.body? line = none)
    {closing other : Closing} {heading : Text}
    (hline : (CodeLine.classify line).function? = some (closing, name, params)) :
    (snapshot.step settings line).HeadedBy other heading ↔
      closing = other ∧ snapshot.headingFor name params = heading := by
  have hcounted : snapshot.counted.hasPending = true := hpending
  rw [step_code_inBlock hbody hopen, close, if_pos hcounted]
  cases hclassify : CodeLine.classify line with
  | blank => simp [hclassify, CodeLine.function?] at hline
  | other => simp [hclassify, CodeLine.function?] at hline
  | boundFunction found list =>
    obtain ⟨rfl, rfl, rfl⟩ : Closing.boundFunction = closing ∧ found = name ∧ list = params := by
      simpa [hclassify, CodeLine.function?] using hline
    simp [Step.HeadedBy, commit, headingFor, counted]
  | namedFunction found list =>
    obtain ⟨rfl, rfl, rfl⟩ : Closing.namedFunction = closing ∧ found = name ∧ list = params := by
      simpa [hclassify, CodeLine.function?] using hline
    simp [Step.HeadedBy, commit, headingFor, counted]

section FunctionLine

variable {closing : Closing} {heading : Text} (hopen : snapshot.status = .inBlock)
  (hpending : snapshot.hasPending = true) (hne : name ≠ []) (hparams : '\n' ∉ params)
  (hrest : '\n' ∉ rest)

include hopen hpending hne hparams hrest

theorem headedBy_boundLine_iff (hname : ∀ c ∈ name, BoundFunction.isNameChar c = true)
    (hslashes : ¬['/', '/'] <+: name) :
    (snapshot.step settings (BoundFunction.line name params rest)).HeadedBy closing heading ↔
      .boundFunction = closing ∧
        snapshot.headingFor name (parenthesised params ++ throughLast ')' rest) = heading := by
  apply headedBy_step_iff hopen hpending (BoundFunction.body?_line hne hname hslashes params rest)
  rw [CodeLine.classify_boundLine hne hname hparams hrest]
  rfl

theorem headedBy_namedLine_iff (hname : ∀ c ∈ name, NamedFunction.isNameChar c = true)
    (hbound : search BoundFunction.start? (NamedFunction.line name params rest) = none) :
    (snapshot.step settings (NamedFunction.line name params rest)).HeadedBy closing heading ↔
      .namedFunction = closing ∧
        snapshot.headingFor name (parenthesised params ++ throughLast ')' rest) = heading := by
  apply headedBy_step_iff hopen hpending (NamedFunction.body?_line name params rest)
  rw [CodeLine.classify_namedLine hne hname hparams hrest, hbound]
  rfl

theorem headedBy_namedLine_iff_of_bound
    (hname : ∀ c ∈ name, NamedFunction.isNameChar c = true) {before : Text} {found : BoundFunction}
    (hbound : search BoundFunction.start? (NamedFunction.line name params rest) =
      some (before, found)) :
    (snapshot.step settings (NamedFunction.line name params rest)).HeadedBy closing heading ↔
      .boundFunction = closing ∧ snapshot.headingFor found.name found.params = heading := by
  apply headedBy_step_iff hopen hpending (NamedFunction.body?_line name params rest)
  rw [CodeLine.classify_namedLine hne hname hparams hrest, hbound]
  rfl

end FunctionLine

/-- The heading ends with the parameters exactly if no parenthesis is closed after them. -/
theorem headingFor_throughLast_iff :
    snapshot.headingFor name (parenthesised params ++ throughLast ')' rest) =
        snapshot.headingFor name (parenthesised params) ↔ ')' ∉ rest := by
  rw [← throughLast_eq_nil_iff]
  simp [headingFor]

end Snapshot

/-- A line that declares or binds a function gives its block the function's name and parameters as
heading exactly if no parenthesis is closed after them. Otherwise the heading goes on to the last
one, and if a function is bound there, a declaration loses its block to it. -/
theorem function_lines_head_blocks (settings : Settings) {snapshot : Snapshot}
    (hopen : snapshot.status = .inBlock) (hpending : snapshot.hasPending = true)
    (params rest : Text) (hparams : '\n' ∉ params) (hrest : '\n' ∉ rest) :
    let heading (name params : Text) :=
      List.replicate (snapshot.depth + 1) '#' ++ [' '] ++ name ++ params
    (∀ name, name ≠ [] → (∀ c ∈ name, isBlank c = false ∧ c ≠ '(' ∧ c ≠ '=') → '=' ∉ params →
      let line := NamedFunction.line name params rest
      let step := snapshot.step settings line
      (step.HeadedBy .namedFunction (heading name (parenthesised params)) ↔ ')' ∉ rest) ∧
        (search BoundFunction.start? line = none →
          step.HeadedBy .namedFunction
            (heading name (parenthesised params ++ throughLast ')' rest))) ∧
        ∀ before found, search BoundFunction.start? line = some (before, found) →
          step.HeadedBy .boundFunction (heading found.name found.params)) ∧
      ∀ target, target ≠ [] → (∀ c ∈ target, isBlank c = false ∧ c ≠ '=') →
        ¬['/', '/'] <+: target →
        let step := snapshot.step settings (BoundFunction.line target params rest)
        (step.HeadedBy .boundFunction (heading target (parenthesised params)) ↔ ')' ∉ rest) ∧
          step.HeadedBy .boundFunction
            (heading target (parenthesised params ++ throughLast ')' rest)) := by
  intro heading
  constructor
  · intro name hne hname hequals line step
    have hchars : ∀ c ∈ name, NamedFunction.isNameChar c = true := by
      intro c hc
      simp [NamedFunction.isNameChar, hname c hc]
    refine ⟨⟨?_, ?_⟩, ?_, ?_⟩
    · intro hheaded
      cases hbound : search BoundFunction.start? line with
      | none =>
        rw [Snapshot.headedBy_namedLine_iff hopen hpending hne hparams hrest hchars hbound]
          at hheaded
        exact Snapshot.headingFor_throughLast_iff.mp hheaded.2
      | some found =>
        rw [Snapshot.headedBy_namedLine_iff_of_bound hopen hpending hne hparams hrest hchars
          hbound] at hheaded
        cases hheaded.1
    · intro hclosed
      -- The first equals sign can only stand in the rest, and a list would have to close behind it.
      have hfront : '=' ∉ "function".toList ++ [' '] ++ name ++ parenthesised params := by
        simp only [List.mem_append, not_or]
        refine ⟨⟨by decide, fun hmem => (hname '=' hmem).2.2 rfl⟩, ?_⟩
        simpa [parenthesised] using hequals
      rw [Snapshot.headedBy_namedLine_iff hopen hpending hne hparams hrest hchars
        (BoundFunction.search_start?_eq_none hfront hclosed)]
      exact ⟨rfl, Snapshot.headingFor_throughLast_iff.mpr hclosed⟩
    · intro hbound
      rw [Snapshot.headedBy_namedLine_iff hopen hpending hne hparams hrest hchars hbound]
      exact ⟨rfl, rfl⟩
    · intro before found hbound
      rw [Snapshot.headedBy_namedLine_iff_of_bound hopen hpending hne hparams hrest hchars hbound]
      exact ⟨rfl, rfl⟩
  · intro target hne htarget hslashes step
    have hchars : ∀ c ∈ target, BoundFunction.isNameChar c = true := by
      intro c hc
      simp [BoundFunction.isNameChar, htarget c hc]
    constructor
    · rw [Snapshot.headedBy_boundLine_iff hopen hpending hne hparams hrest hchars hslashes,
        ← Snapshot.headingFor_throughLast_iff]
      exact and_iff_right rfl
    · rw [Snapshot.headedBy_boundLine_iff hopen hpending hne hparams hrest hchars hslashes]
      exact ⟨rfl, rfl⟩

/-- A call in a remark on the same line ends up in the heading, and a function that is bound there
takes the place of the declared one. -/
theorem function_lines_head_blocks_with_remarks :
    let snapshot := (Snapshot.step {} {} "// doc".toList).snapshot
    let called := snapshot.step {} "function f(a) // calls g()".toList
    let nested := snapshot.step {} "function f(a) // x = function(b)".toList
    let bound := snapshot.step {} "f = function(a) // sums".toList
    (snapshot.status = .inBlock ∧ snapshot.hasPending = true) ∧
      (called.HeadedBy .namedFunction "## f(a) // calls g()".toList ∧
        ¬called.HeadedBy .namedFunction "## f(a)".toList) ∧
      (nested.HeadedBy .boundFunction "## x(b)".toList ∧
        ¬nested.HeadedBy .namedFunction "## f(a)".toList) ∧
      bound.HeadedBy .boundFunction "## f(a)".toList := by
  intro snapshot called nested bound
  have hopen : snapshot.status = .inBlock := by decide
  have hpending : snapshot.hasPending = true := by decide
  have hname : ∀ c ∈ ['f'], isBlank c = false ∧ c ≠ '(' ∧ c ≠ '=' := by
    intro c hc
    obtain rfl := List.mem_singleton.mp hc
    decide
  obtain ⟨hcalled, hcall, -⟩ := (function_lines_head_blocks {} hopen hpending ['a']
    " // calls g()".toList (by decide) (by decide)).1 ['f'] (by decide) hname (by decide)
  obtain ⟨hnested, -, hfound⟩ := (function_lines_head_blocks {} hopen hpending ['a']
    " // x = function(b)".toList (by decide) (by decide)).1 ['f'] (by decide) hname (by decide)
  have hbound := (function_lines_head_blocks {} hopen hpending ['a'] " // sums".toList (by decide)
    (by decide)).2 ['f'] (by decide) (fun c hc => ⟨(hname c hc).1, (hname c hc).2.2⟩) (by decide)
  refine ⟨⟨hopen, hpending⟩, ⟨hcall (by decide +kernel), ?_⟩, ⟨?_, ?_⟩, ?_⟩
  · intro hheaded
    exact hcalled.mp hheaded (by decide)
  · exact hfound "function f(a) // ".toList ⟨['x'], [' '], [' '], [], "(b)".toList⟩
      (by decide +kernel)
  · intro hheaded
    exact hnested.mp hheaded (by decide)
  · exact hbound.1.mpr (by decide)

end SlashDoc
