import TemplateWorkbench.Proofs.Template.AlternationText
import TemplateWorkbench.View.Dispatch
import TemplateWorkbench.View.TemplateEngine

/-!
# What the render view shows

A template of literal text and prints of names that the context has is always rendered.  The text is the
literal text with every print replaced by the value of its name, in the encoding of the render mode.
-/

namespace TemplateWorkbench

open Template (Alternation)

/-- How a render mode encodes a value. -/
def RenderMode.encode? : RenderMode → Json → Option String
  | .text, value => value.printed?
  | .html, value => value.printed?.map Text.escapeMarkup
  | .json, value => (Json.line value).toOption

/-- The name under which a template is registered decides on the encoding of the mode. -/
theorem encoding?_templateName (mode : RenderMode) :
    Template.encoding? mode.templateName = mode.encode? := by
  have hprints : Template.printsJson mode.templateName = (mode == .json) := by
    cases mode <;> decide +kernel
  have hescapes : Template.escapesByName mode.templateName = (mode == .html) := by
    cases mode <;> decide +kernel
  funext value
  have hescaped : Template.escapedBy mode.templateName =
      fun text => if mode == .html then Text.escapeMarkup text else text := by
    funext text
    rw [Template.escapedBy, hescapes]
  rw [Template.encoding?, Template.shown?, hprints, hescaped]
  cases mode with
  | html => rfl
  | text => exact Option.map_id'
  | json => exact Option.map_id'

/-- A context that is called a dictionary is an object. -/
theorem exists_object_of_typeName {result : Except String Json}
    (hname : result.toOption.map Json.typeName = some "dict") :
    ∃ members, result = .ok (.object members) := by
  cases result with
  | error message => cases hname
  | ok context =>
      cases context with
      | object members => exact ⟨members, rfl⟩
      | _ => simp [Except.toOption, Json.typeName] at hname

/-- A template of literal text and prints of names that the context has is rendered in every mode: to its
text with unified line ends, less one line feed at the very end, with every print replaced by the value
of its name in the encoding of the mode. -/
theorem render_alternation (strict : Bool) (mode : RenderMode) {alternation : Alternation}
    (hformed : alternation.WellFormed) {contextText : String} {members : List (String × Json)}
    (hcontext : parseContext contextText = .ok (.object members))
    (hkeys : ∀ name ∈ alternation.names, name ∈ members.map Prod.fst) :
    ∃ text,
      alternation.settled.filled? (fun name => (members.lookup name).bind mode.encode?) =
        some text ∧
      (Draft.derive ⟨.string (String.ofList alternation.source), contextText, mode⟩
        (templateEngine strict) .render).outcome = .success (.rendered text) := by
  have hread : Json.read contextText = .ok (.object members) := by
    rw [parseContext] at hcontext
    split at hcontext
    · next value hvalue =>
        cases hcontext
        exact hvalue
    · cases hcontext
  obtain ⟨environment, text, hsources, hrender, hfilled⟩ :=
    Alternation.exists_render_source hformed (Json.canonical_of_read hread) hkeys strict
      mode.templateName
  have hmeaning : Alternation.meaning? mode.templateName members =
      fun name => (members.lookup name).bind mode.encode? := by
    funext name
    rw [Alternation.meaning?, encoding?_templateName]
  have hengine : TemplateEngine.render strict mode.templateName
      (String.ofList alternation.source) (.object members) = .ok text := by
    rw [TemplateEngine.render, hsources]
    simp only [hrender]
  refine ⟨text, by rw [← hmeaning]; exact hfilled, ?_⟩
  rw [Draft.derive, Draft.ask]
  simp only [hcontext, templateEngine, hengine]
  rfl

/-- Prints of a text and of a list between literal texts, escaped where the mode is that of markup. -/
theorem render_alternation_escaped :
    let alternation : Alternation :=
      .print "<p>\r\n".toList "user" (.print ": ".toList "items" (.last "</p>\n".toList))
    let contextText := "\x7b\"user\": \"A & B\", \"items\": [1, \"<\", null]\x7d"
    alternation.WellFormed ∧ ∃ members, parseContext contextText = .ok (.object members) ∧
      (∀ name ∈ alternation.names, name ∈ members.map Prod.fst) ∧
      (Draft.derive ⟨.string (String.ofList alternation.source), contextText, .html⟩
        (templateEngine true) .render).outcome =
          .success (.rendered "<p>\nA &amp; B: [1, &#39;&lt;&#39;, None]</p>") := by
  intro alternation contextText
  have hformed : alternation.WellFormed := by
    simp only [alternation, Alternation.WellFormed]
    decide
  have hobject : (parseContext contextText).toOption.map Json.typeName = some "dict" := by
    decide +kernel
  have hall : (parseContext contextText).toOption.map (fun context =>
      alternation.names.all fun name => (context.member? name).isSome) = some true := by
    decide +kernel
  have hexpected : (parseContext contextText).toOption.bind (fun context =>
      alternation.settled.filled? fun name =>
        (context.member? name).bind RenderMode.html.encode?) =
        some "<p>\nA &amp; B: [1, &#39;&lt;&#39;, None]</p>" := by
    decide +kernel
  obtain ⟨members, hcontext⟩ := exists_object_of_typeName hobject
  rw [hcontext] at hall hexpected
  have hkeys (name : String) (hname : name ∈ alternation.names) : name ∈ members.map Prod.fst := by
    have hmember : (members.lookup name).isSome = true :=
      List.all_eq_true.mp (Option.some.inj hall) name hname
    obtain ⟨value, hvalue⟩ := Option.isSome_iff_exists.mp hmember
    exact List.mem_map.mpr ⟨_, Json.mem_of_lookup_eq_some hvalue, rfl⟩
  obtain ⟨text, hfilled, hrendered⟩ := render_alternation true .html hformed hcontext hkeys
  cases hexpected.symm.trans hfilled
  exact ⟨hformed, members, hcontext, hkeys, hrendered⟩

end TemplateWorkbench
