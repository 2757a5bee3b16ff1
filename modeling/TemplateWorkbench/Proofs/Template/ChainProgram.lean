import TemplateWorkbench.Proofs.Template.AlternationProgram
import TemplateWorkbench.Proofs.Template.Chain
import TemplateWorkbench.Template.Environment

/-!
# The program of a link

A template that goes on with another one is compiled to the steps of its own part and one step more.  A
template that is included is asked for when the step is reached; a parent is chosen then, and what the
template prints itself is printed as long as none has been.
-/

namespace TemplateWorkbench.Template

namespace Reference

/-- Whether the template that is gone on with is a parent. -/
def isExtension : Reference → Bool
  | inclusion => false
  | extension => true

/-- The step that goes on with the template of a name. -/
def step (line : Nat) (name : String) : Reference → Step
  | inclusion => .includeFrom line (.const (.string name)) .single (some []) false
  | extension => .extend line none (.const (.string name))

end Reference

namespace Compiling

variable {escapes chosen : Bool} {setting : Setting} {frame : Frame}

/-! ### The step of a reference -/

/-- A text is compiled to itself. -/
theorem yields_expression_text {outside : Nat} (houtside : outside ≤ Listing.mostBrackets) (line : Nat)
    (text : String) :
    Yields escapes chosen (expression setting frame outside (.const line (.string text)))
      (.const (.string text)) := by
  refine yields_expression (Leads.look fun progress _ => Leads.pure _) (Leads.pure _) ?_
  simp only [Term.brackets, Value.brackets]
  omega

/-- A loop inside of few others can be written. -/
theorem yields_repeated (hnesting : frame.nesting < Listing.mostNested) :
    Yields escapes chosen (repeated frame) { frame.under with nesting := frame.nesting + 1 } := by
  unfold repeated
  rw [if_neg (Nat.not_le.mpr hnesting)]
  exact Leads.pure _

theorem yields_writeOutsideText (hindent : frame.indent + 2 ≤ Listing.mostIndented)
    (hnesting : frame.nesting + 2 ≤ Listing.mostNested) :
    Yields escapes chosen (writeOutsideText frame) () := by
  have hrows : frame.indent ≤ Listing.mostIndented := by omega
  have hunder : frame.indent + 1 ≤ Listing.mostIndented := by omega
  have hinner : frame.nesting + 1 < Listing.mostNested := by omega
  refine (yields_write hrows 2).bind ((yields_repeated (Nat.lt_of_succ_lt hinner)).bind ?_)
  exact (yields_write hunder 1).bind ((yields_repeated hinner).bind
    ((yields_write hindent 1).bind (yields_write hrows 1)))

end Compiling

open Compiling Alternation

variable {escapes : Bool} {setting : Setting}

/-- A template that is included with its context is asked for in a step of its own. -/
theorem yields_compile_inclusion {scope : Scope} (hbound : scope.bound = []) (checks : Bool) (line : Nat)
    (name : String) :
    Yields escapes false
      (compile setting (rootFrame scope checks) (Reference.inclusion.statement line name))
      ⟨[Reference.inclusion.step line name], false⟩ := by
  have hlocals : localNames [scope] = [] := by
    rw [localNames, List.flatMap_cons, List.flatMap_nil, hbound, List.mergeSort_nil]
    rfl
  have hrows : (rootFrame scope checks).indent ≤ Listing.mostIndented := Nat.le_of_ble_eq_true rfl
  rw [Reference.statement, compile]
  refine Leads.bind (Leads.pure _) ((yields_mark line).bind ((yields_write hrows 1).bind ?_))
  refine (yields_expression_text (Nat.le_of_ble_eq_true rfl) line name).bind ?_
  refine Leads.look fun tried _ => ?_
  simp only [if_true, Bool.false_eq_true, if_false]
  refine (yields_writeOutsideText (Nat.le_of_ble_eq_true rfl) (Nat.le_of_ble_eq_true rfl)).bind ?_
  simp only [rootFrame, hlocals]
  exact Leads.pure _

/-- A template that certainly has a parent chooses it in a step of its own. -/
theorem leads_compile_extension (scope : Scope) (line : Nat) (name : String) :
    Leads (Calm escapes false) (Calm escapes true)
      (compile setting (rootFrame scope true) (Reference.extension.statement line name))
      ⟨[Reference.extension.step line name], false⟩ := by
  have hrows : (rootFrame scope true).indent ≤ Listing.mostIndented := Nat.le_of_ble_eq_true rfl
  have hunder : (rootFrame scope true).under.indent ≤ Listing.mostIndented :=
    Nat.le_of_ble_eq_true rfl
  rw [Reference.statement, compile]
  refine Leads.look fun progress hcalm => ?_
  simp only [rootFrame, hcalm.certain, hcalm.parents, Bool.false_eq_true, if_false,
    Bool.toNat_false, Nat.lt_irrefl]
  refine (yields_write hrows _).bind ((yields_mark line).bind ((yields_write hrows 1).bind ?_))
  refine (yields_expression_text (Nat.le_of_ble_eq_true rfl) line name).bind ?_
  refine (yields_write hrows 1).bind ((yields_repeated (Nat.le_of_ble_eq_true rfl)).bind ?_)
  have hchosen (next : Progress) (hnext : Calm escapes false next) :
      Calm escapes true
        { next with parents := next.parents + 1, certainParent := next.certainParent || true } :=
    ⟨hnext.found, hnext.escapes, hnext.decided, congrArg Nat.succ hnext.parents, Bool.or_true _⟩
  exact (yields_write hunder 1).bind (Leads.bind (Leads.modify hchosen) (Leads.pure _))

/-- The step of a reference is the only one of its statement. -/
theorem leads_compileAll_reference {scope : Scope} (hbound : scope.bound = []) (line : Nat)
    (name : String) (reference : Reference) :
    Leads (Calm escapes false) (Calm escapes reference.isExtension)
      (compileAll setting (rootFrame scope reference.isExtension) [reference.statement line name])
      [reference.step line name] := by
  have hnone {after : Progress → Prop} :
      Leads after after (compileAll setting (rootFrame scope reference.isExtension) []) [] := by
    rw [compileAll]
    exact Leads.pure []
  rw [compileAll]
  cases reference with
  | inclusion =>
      exact (yields_compile_inclusion hbound false line name).bind (hnone.bind (Leads.pure _))
  | extension => exact (leads_compile_extension scope line name).bind (hnone.bind (Leads.pure _))

namespace Chain

/-! ### The scope of a link -/

theorem bodyMentions_append (first second : List Statement) :
    bodyMentions (first ++ second) = bodyMentions first ++ bodyMentions second := by
  induction first with
  | nil => rfl
  | cons statement rest ih =>
      rw [List.cons_append, bodyMentions, bodyMentions, ih, List.append_assoc]

/-- A reference mentions no name. -/
theorem bodyMentions_linkBody (part : Alternation) (reference : Reference) (name : String) :
    bodyMentions (linkBody part reference name) = bodyMentions part.body := by
  have hnone : bodyMentions [reference.statement (part.lastLine 1) name] = [] := by
    cases reference <;> rfl
  rw [linkBody, bodyMentions_append, hnone, List.append_nil]

theorem openNames_linkBody {part : Alternation} (hpart : part.WellFormed) (reference : Reference)
    (name : String) : openNames ["self"] (linkBody part reference name) = [] := by
  rw [openNames, bodyMentions_linkBody]
  exact openNames_body hpart

theorem bodyBlocks_linkBody (part : Alternation) (reference : Reference) (name : String) :
    bodyBlocks (linkBody part reference name) = [] := by
  rw [linkBody, body]
  cases part.parts 1 <;> cases reference <;> rfl

theorem bodyExtends_linkBody (part : Alternation) (reference : Reference) (name : String) :
    bodyExtends (linkBody part reference name) = reference.isExtension := by
  rw [linkBody, body]
  cases part.parts 1 <;> cases reference <;> rfl

/-- A reference looks nothing up. -/
theorem visitAll_linkBody (scope : Scope) (part : Alternation) (reference : Reference)
    (name : String) :
    Scope.visitAll [] scope (linkBody part reference name) = Scope.visitAll [] scope part.body := by
  rw [linkBody, body]
  cases part.parts 1 <;> cases reference <;> rfl

/-! ### The program of a link -/

/-- What a template does: the steps of its own part, and the one of its reference. -/
def linkSteps (escaping : Escaping) (part : Alternation) (reference : Reference) (next : String) :
    List Step :=
  guarded reference.isExtension (part.steps escaping) ++ [reference.step (part.lastLine 1) next]

/-- The program of a template that goes on with another one. -/
def linkProgram (template : String) (plan : ScopePlan) (part : Alternation) (reference : Reference)
    (next : String) : Program :=
  ⟨template, ⟨none, none, plan, linkSteps (escapingOf (escapesByName template)) part reference next⟩,
    if reference.isExtension then .always else .none, []⟩

/-- What a template is compiled to that goes on with another one. -/
theorem compileTemplate_linkBody {part : Alternation} (hpart : part.WellFormed)
    (reference : Reference) (next : String) (hlater : setting.printsConstants = false) :
    ∃ plan, FillsFrom plan part.names ∧
      compileTemplate setting (linkBody part reference next) =
        .ok ⟨setting.name,
          ⟨none, none, plan, linkSteps (escapingOf setting.escapes) part reference next⟩,
          if reference.isExtension then .always else .none, []⟩ := by
  have hscope := looksUp_visitAll part
  refine ⟨_, hscope.fillsFrom fun name hname => (hpart.isName hname).1,
    compileTemplate_of_leads (leads_program (bodyBlocks_linkBody part reference next)
      (openNames_linkBody hpart reference next) (bodyExtends_linkBody part reference next)
      (visitAll_linkBody _ part reference next) ?_)⟩
  exact leads_compileAll_append hlater (Nat.le_of_ble_eq_true rfl) rfl
    (fun name hname => slot_rootFrame hpart hscope.level reference.isExtension hname)
    (leads_compileAll_reference hscope.unbound _ next reference)

/-- The source of a template that goes on with another one is compiled to its program. -/
theorem exists_compileSource_link {part : Alternation} (hpart : part.WellFormed)
    (reference : Reference) {next : String} (hnext : (next.toList.all isQuotable) = true)
    (strict : Bool) (template : String) :
    ∃ plan, FillsFrom plan part.unified.names ∧
      Environment.compileSource strict template
          (String.ofList (part.source ++ reference.tag next)) =
        .ok (linkProgram template plan part.unified reference next) := by
  have hlater : (Environment.settingFor strict template).printsConstants = false := rfl
  obtain ⟨plan, hfills, hcompile⟩ :=
    compileTemplate_linkBody (wellFormed_unified hpart) reference next hlater
  refine ⟨plan, hfills, ?_⟩
  rw [Environment.compileSource, String.toList_ofList, parse_reference hpart reference hnext]
  exact hcompile

end Chain

end TemplateWorkbench.Template
