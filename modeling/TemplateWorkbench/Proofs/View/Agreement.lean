import TemplateWorkbench.Proofs.Template.Grammar.Ending
import TemplateWorkbench.Proofs.Template.Renaming
import TemplateWorkbench.Proofs.View.Refusals

/-!
# Which sources are accepted

The engine reads a source in four ways: for its tokens, for its tree, for the names of its routines and to
register it in an environment.  Each way goes further than the one before, so what one of them reports the
later ones report as well: a source whose tokens are reported has no tree, and what is said of the tree is
said of the names of the routines.

Those names and an environment differ in the name that the source is compiled under, in what is escaped to
begin with and in whether constants are printed while compiling.  The name only stands in the report.  For
sources that are judged alike otherwise, an environment reports a fault exactly if the names of the routines
report it as a fault of templates.  But the names of the routines report faults of written form as well, and
those come out of an environment as they are.
-/

namespace TemplateWorkbench

namespace Template

variable {α : Type}

/-! ### Faults of templates -/

/-- The fault of templates that a result has stopped with. -/
def templateFault? (result : Except Fault α) : Option Fault :=
  (Results.error? result).filter fun fault => fault.kind.isTemplateFault

theorem templateFault?_eq_some_iff {result : Except Fault α} {fault : Fault} :
    templateFault? result = some fault ↔
      result = .error fault ∧ fault.kind.isTemplateFault = true := by
  rw [templateFault?, Option.filter_eq_some_iff, Results.error?_eq_some_iff]

theorem FaultKind.isFormFault_of_isTemplateFault {kind : FaultKind}
    (hkind : kind.isTemplateFault = true) : kind.isFormFault = false := by
  cases kind <;> first | rfl | cases hkind

/-- Whether compiling a source objects to the same faults of templates whatever is escaped to begin with, and
whether or not constants are printed meanwhile. -/
def IsJudgedAlike (strict : Bool) (source : List Char) : Prop :=
  ∀ body, parse source = .ok body → ∀ name escapes escapes' printsConstants printsConstants',
    templateFault? (compileTemplate { name, strict, escapes, printsConstants } body) =
      templateFault? (compileTemplate
        { name, strict, escapes := escapes', printsConstants := printsConstants' } body)

theorem templateFault?_compileTemplate_renamed (setting : Setting) (name : String)
    (body : List Statement) : templateFault? (compileTemplate (setting.renamed name) body) =
      templateFault? (compileTemplate setting body) := by
  rw [templateFault?, error?_compileTemplate_renamed, templateFault?]

/-- It is enough to compile a source without a name. -/
theorem isJudgedAlike_of_exists {strict : Bool} {source : List Char}
    (hsame : ∃ fault?, ∀ escapes printsConstants, templateFault? (do
      compileTemplate { name := anonymousSource, strict, escapes, printsConstants } (← parse source)) =
        fault?) : IsJudgedAlike strict source := by
  obtain ⟨fault?, hfault⟩ := hsame
  intro body hparse name escapes escapes' printsConstants printsConstants'
  have hnamed (escapes printsConstants : Bool) :
      templateFault? (compileTemplate { name, strict, escapes, printsConstants } body) = fault? := by
    rw [← hfault escapes printsConstants, hparse]
    exact templateFault?_compileTemplate_renamed
      { name := anonymousSource, strict, escapes, printsConstants } name body
  rw [hnamed, hnamed]

/-- Compiling under a name and compiling on its own stop with the same fault of templates. -/
theorem IsJudgedAlike.templateFault?_compileSource {strict : Bool} {source : String}
    (halike : IsJudgedAlike strict source.toList) (name : String) :
    templateFault? (Environment.compileSource strict name source) =
      templateFault? (routineNames strict source) := by
  unfold Environment.compileSource routineNames
  cases hparse : parse source.toList with
  | error fault => rfl
  | ok body =>
      -- First the two settings that are taken to be alike, then the two names.
      let setting : Setting :=
        { name := anonymousSource, strict, escapes := false, printsConstants := true }
      calc templateFault? (compileTemplate (Environment.settingFor strict name) body)
          = templateFault? (compileTemplate (setting.renamed name) body) :=
            halike body hparse name _ _ _ _
        _ = templateFault? (compileTemplate setting body) :=
            templateFault?_compileTemplate_renamed setting name body
        _ = _ := by
            simp only [templateFault?, bind, Except.bind]
            cases compileTemplate setting body <;> rfl

/-! ### Reports -/

/-- The name that the report of a fault shows. -/
def Fault.shownName (fault : Fault) (name : String) : String :=
  (presentText? fault.subject <|> presentText? (some name)).getD anonymousSource

/-- A report begins with a kind, and reports have all but the name in common. -/
theorem exists_reportText_eq (kind wording : String) (line : Option Int) (source : Option String) :
    ∃ after, ∀ name,
      reportText kind wording name line source = kind ++ ": " ++ wording ++ " (in " ++ name ++ after := by
  unfold reportText
  cases line.filter (· != 0) with
  | none =>
      refine ⟨")", fun name => ?_⟩
      simp [toString, String.append_assoc]
  | some line =>
      dsimp only
      cases source.bind (quotedLine? · line) with
      | none =>
          refine ⟨s!":{line})", fun name => ?_⟩
          simp [toString, String.append_assoc]
      | some quoted =>
          refine ⟨s!":{line})\n\n{lineLabel line} > {quoted}", fun name => ?_⟩
          simp [toString, String.append_assoc]

/-- Reports of one fault on one source have all but the shown name in common. -/
theorem Fault.exists_report_eq (fault : Fault) (source : String) : ∃ before after, ∀ name,
    fault.report (some name) (some source) = before ++ "(in " ++ fault.shownName name ++ after := by
  let wording := (presentText? (some fault.message)).getD fault.kind.name
  obtain ⟨after, htext⟩ := exists_reportText_eq fault.kind.name wording (fault.line.map Int.ofNat) (some source)
  refine ⟨fault.kind.name ++ ": " ++ wording ++ " ", after, fun name => (htext _).trans ?_⟩
  simp [String.append_assoc, shownName]

theorem Rejection.ofFault_eq_reported_iff {fault : Fault} {name source text : String} :
    Rejection.ofFault fault name source = .reported text ↔
      fault.kind.isTemplateFault = true ∧ text = fault.report (some name) (some source) := by
  unfold ofFault
  split
  · next hkind => simp [hkind, eq_comm]
  · next hkind => simp [hkind]

/-- What an environment of one source reports. -/
theorem Environment.ofSources_single_eq_reported_iff {strict : Bool} {name source text : String} :
    ofSources strict [(name, source)] = .error (.reported text) ↔
      ∃ fault, templateFault? (compileSource strict name source) = some fault ∧
        text = fault.report (some name) (some source) := by
  simp only [templateFault?_eq_some_iff]
  cases hcompile : compileSource strict name source with
  | ok program =>
      have hlast : Json.lastWins [(name, source)] = [(name, source)] := rfl
      simp [ofSources, hlast, compileAll, hcompile, bind, Except.bind, Except.map, pure, Except.pure]
  | error fault =>
      rw [ofSources_single_eq_error hcompile]
      simp [Rejection.ofFault_eq_reported_iff]

end Template

namespace TemplateEngine

open Template

variable {α : Type} {strict : Bool} {source text : String}

/-- What is reported of a source without a name. -/
theorem onSource_eq_reported_iff {result : Except Fault α} :
    onSource source result = .error (.reported text) ↔
      ∃ fault, templateFault? result = some fault ∧
        text = fault.report (some anonymousSource) (some source) := by
  have hrefusal {rejection : Rejection} :
      Refusal.ofRejection rejection = .reported text ↔ rejection = .reported text := by
    cases rejection <;> simp [Refusal.ofRejection]
  simp only [templateFault?_eq_some_iff]
  cases result with
  | ok value => simp [onSource, Except.mapError]
  | error fault =>
      simp [onSource, Except.mapError, hrefusal, Rejection.ofFault_eq_reported_iff]

/-- What is reported of the tokens of a source. -/
theorem tokens_eq_reported_iff :
    tokens source = .error (.reported text) ↔
      ∃ fault, templateFault? (placedTokens source.toList) = some fault ∧
        text = fault.report (some anonymousSource) (some source) := by
  rw [tokens, Results.bind_pure_eq_error_iff, onSource_eq_reported_iff]

/-- What is reported of the tree of a source. -/
theorem tree_eq_reported_iff :
    tree source = .error (.reported text) ↔
      ∃ fault, templateFault? (parse source.toList) = some fault ∧
        text = fault.report (some anonymousSource) (some source) := by
  rw [tree, Results.bind_pure_eq_error_iff, onSource_eq_reported_iff]

/-- What is reported of the names of the routines: faults of templates, and faults of written form. -/
theorem routineNames_eq_reported_iff :
    TemplateEngine.routineNames strict source = .error (.reported text) ↔
      (∃ fault, templateFault? (Template.routineNames strict source) = some fault ∧
        text = fault.report (some anonymousSource) (some source)) ∨
      ∃ fault, Template.routineNames strict source = .error fault ∧ fault.kind.isFormFault = true ∧
        text = fault.report none (some source) := by
  unfold TemplateEngine.routineNames
  cases hnames : Template.routineNames strict source with
  | ok names => simp [templateFault?_eq_some_iff]
  | error fault =>
      dsimp only
      cases hform : fault.kind.isFormFault with
      | true =>
          have hkind : fault.kind.isTemplateFault = false :=
            Bool.eq_false_iff.mpr fun hkind => by
              rw [FaultKind.isFormFault_of_isTemplateFault hkind] at hform
              cases hform
          simp [templateFault?_eq_some_iff, hform, hkind, @eq_comm _ text]
      | false =>
          rw [if_neg Bool.false_ne_true, onSource_eq_reported_iff]
          simp [hform]

/-! ### From the tokens to the tree -/

/-- A source whose tokens stop with a fault of templates has no tree for one. -/
theorem exists_templateFault?_parse {fault : Fault}
    (htokens : templateFault? (placedTokens source.toList) = some fault) :
    ∃ other, templateFault? (parse source.toList) = some other := by
  obtain ⟨hplaced, hkind⟩ := templateFault?_eq_some_iff.mp htokens
  cases hended : (tokenize source.toList).fault with
  | none =>
      obtain ⟨placed, hok, -⟩ := exists_placedTokens hended
      rw [hok] at hplaced
      cases hplaced
  | some ended =>
      obtain ⟨line, misreading⟩ := ended
      have hspec := placedTokens_eq_error hended
      obtain rfl : misreading.fault line = fault := Except.error.inj (hspec.symm.trans hplaced)
      cases hparse : parse source.toList with
      | ok body =>
          -- Parsing goes through only after it has come to the end of all tokens.
          rw [fault_of_parse_eq_ok hparse] at hended
          cases hended
      | error other =>
          refine ⟨other, templateFault?_eq_some_iff.mpr ⟨rfl, ?_⟩⟩
          obtain hother | ⟨line', misreading', hended', rfl⟩ := fault_of_parse hparse
          · exact hother
          · rw [hended] at hended'
            cases hended'
            exact hkind

/-- What parsing stops with, compiling stops with. -/
theorem templateFault?_routineNames_of_parse {fault : Fault}
    (hparse : templateFault? (parse source.toList) = some fault) :
    templateFault? (Template.routineNames strict source) = some fault := by
  obtain ⟨hfault, hkind⟩ := templateFault?_eq_some_iff.mp hparse
  refine templateFault?_eq_some_iff.mpr ⟨?_, hkind⟩
  rw [Template.routineNames, hfault]
  rfl

end TemplateEngine

/-! ### The four ways -/

open Template (IsJudgedAlike)

/-- Whether two texts are one report but for the name, which is the given one in the first and in the second
that of a source without a name. -/
def IsSameReport (name text anonymous : String) : Prop :=
  ∃ (fault : Template.Fault) (before after : String),
    text = before ++ "(in " ++ fault.shownName name ++ after ∧
      anonymous = before ++ "(in " ++ fault.shownName Template.anonymousSource ++ after

theorem isSameReport_report (fault : Template.Fault) (source name : String) :
    IsSameReport name (fault.report (some name) (some source))
      (fault.report (some Template.anonymousSource) (some source)) := by
  obtain ⟨before, after, hreport⟩ := fault.exists_report_eq source
  exact ⟨fault, before, after, hreport name, hreport Template.anonymousSource⟩

/-- What is reported of the tokens keeps a source from having a tree, and what is reported of the tree is
reported of the names of the routines.  For a source that is judged alike in every setting, what an
environment reports is reported of those names, but for the name; and what is reported of them is so reported
by the environment, or is a fault of written form, of which the environment reports nothing. -/
theorem reports_agree (strict : Bool) (name source : String)
    (halike : IsJudgedAlike strict source.toList) :
    (∀ text, TemplateEngine.tokens source = .error (.reported text) →
      ∃ other, TemplateEngine.tree source = .error (.reported other)) ∧
      (∀ text, TemplateEngine.tree source = .error (.reported text) →
        TemplateEngine.routineNames strict source = .error (.reported text)) ∧
      (∀ text, Template.Environment.ofSources strict [(name, source)] = .error (.reported text) →
        ∃ anonymous, TemplateEngine.routineNames strict source = .error (.reported anonymous) ∧
          IsSameReport name text anonymous) ∧
      ∀ anonymous, TemplateEngine.routineNames strict source = .error (.reported anonymous) →
        (∃ text, Template.Environment.ofSources strict [(name, source)] = .error (.reported text) ∧
          IsSameReport name text anonymous) ∨
        ((∃ fault, Template.routineNames strict source = .error fault ∧
            fault.kind.isFormFault = true ∧ anonymous = fault.report none (some source)) ∧
          ∀ text, Template.Environment.ofSources strict [(name, source)] ≠ .error (.reported text)) := by
  have hcompile := halike.templateFault?_compileSource name
  refine ⟨fun text htokens => ?_, fun text htree => ?_, fun text hsources => ?_, fun anonymous hnames => ?_⟩
  · obtain ⟨fault, hplaced, -⟩ := TemplateEngine.tokens_eq_reported_iff.mp htokens
    obtain ⟨other, hparse⟩ := TemplateEngine.exists_templateFault?_parse hplaced
    exact ⟨_, TemplateEngine.tree_eq_reported_iff.mpr ⟨other, hparse, rfl⟩⟩
  · obtain ⟨fault, hparse, rfl⟩ := TemplateEngine.tree_eq_reported_iff.mp htree
    exact TemplateEngine.routineNames_eq_reported_iff.mpr
      (.inl ⟨fault, TemplateEngine.templateFault?_routineNames_of_parse hparse, rfl⟩)
  · obtain ⟨fault, hfault, rfl⟩ := Template.Environment.ofSources_single_eq_reported_iff.mp hsources
    rw [hcompile] at hfault
    exact ⟨_, TemplateEngine.routineNames_eq_reported_iff.mpr (.inl ⟨fault, hfault, rfl⟩),
      isSameReport_report fault source name⟩
  · obtain ⟨fault, hfault, rfl⟩ | ⟨fault, hfault, hform, rfl⟩ :=
      TemplateEngine.routineNames_eq_reported_iff.mp hnames
    · rw [← hcompile] at hfault
      exact .inl ⟨_, Template.Environment.ofSources_single_eq_reported_iff.mpr ⟨fault, hfault, rfl⟩,
        isSameReport_report fault source name⟩
    · refine .inr ⟨⟨fault, hfault, hform, rfl⟩, fun text hsources => ?_⟩
      -- What the environment reported would be a fault of templates, and there is only one fault.
      obtain ⟨other, hother, -⟩ := Template.Environment.ofSources_single_eq_reported_iff.mp hsources
      rw [hcompile, Template.templateFault?_eq_some_iff, hfault] at hother
      obtain ⟨⟨rfl⟩, hkind⟩ := hother
      rw [Template.FaultKind.isFormFault_of_isTemplateFault hkind] at hform
      cases hform

/-- A filter that there is not is reported by an environment as it is of the names of the routines. -/
theorem reports_agree_unknownFilter :
    let source := "\x7b\x7b x|nosuch \x7d\x7d"
    IsJudgedAlike false source.toList ∧
      ∃ text, Template.Environment.ofSources false [("page.txt", source)] = .error (.reported text) ∧
        IsSameReport "page.txt" text
          ("TemplateAssertionError: No filter named 'nosuch'. (in <string>:1)\n\n   1 > " ++ source) := by
  intro source
  let fault : Template.Fault := ⟨.templateAssertion, "No filter named 'nosuch'.", some 1, none⟩
  have halike : IsJudgedAlike false source.toList :=
    Template.isJudgedAlike_of_exists ⟨some fault, by decide +kernel⟩
  have hreport : Template.templateFault? (Template.routineNames false source) = some fault ∧
      "TemplateAssertionError: No filter named 'nosuch'. (in <string>:1)\n\n   1 > " ++ source =
        fault.report none (some source) := by
    decide +kernel
  obtain ⟨hfault, -⟩ := id hreport
  have hnames : TemplateEngine.routineNames false source = .error (.reported
      ("TemplateAssertionError: No filter named 'nosuch'. (in <string>:1)\n\n   1 > " ++ source)) :=
    TemplateEngine.routineNames_eq_reported_iff.mpr (.inl ⟨fault, hreport⟩)
  obtain ⟨-, -, -, hreported⟩ := reports_agree false "page.txt" source halike
  refine ⟨halike, (hreported _ hnames).resolve_right ?_⟩
  rintro ⟨⟨other, hother, hform, -⟩, -⟩
  rw [(Template.templateFault?_eq_some_iff.mp hfault).1] at hother
  cases hother
  cases hform

/-- A keyword that is given twice is reported of the names of the routines, but an environment does not
report it. -/
theorem reports_disagree_repeatedKeyword :
    let source := "\x7b\x7b dict(a=1, a=2) \x7d\x7d"
    let message := "keyword argument repeated: a (<template>, line 12)"
    IsJudgedAlike false source.toList ∧
      TemplateEngine.routineNames false source =
        .error (.reported ("SyntaxError: " ++ message ++ " (in <string>:12)")) ∧
      Template.Environment.ofSources false [("t.txt", source)] =
        .error (.plain ⟨.badSyntax, message, some 12, none⟩) := by
  intro source message
  let fault : Template.Fault := ⟨.badSyntax, message, some 12, none⟩
  have hfaults : Results.error? (Template.routineNames false source) = some fault ∧
      Results.error? (Template.Environment.compileSource false "t.txt" source) = some fault := by
    decide +kernel
  obtain ⟨hnames, hsources⟩ := hfaults
  refine ⟨Template.isJudgedAlike_of_exists ⟨none, by decide +kernel⟩, ?_, ?_⟩
  · exact TemplateEngine.routineNames_eq_reported_iff.mpr
      (.inr ⟨fault, Results.error?_eq_some_iff.mp hnames, rfl, by decide⟩)
  · exact Template.Environment.ofSources_single_eq_error (Results.error?_eq_some_iff.mp hsources)

end TemplateWorkbench
