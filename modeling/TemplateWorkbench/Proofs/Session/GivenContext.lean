import TemplateWorkbench.Proofs.Session.Batches
import TemplateWorkbench.Proofs.Settings.Keeping

/-!
# Contexts that are given as values

A context may be given as a value, which the session keeps as indented text.  The text is read again for every
view that needs the context, so the engine sees the value only if reading undoes writing: for all texts and
numbers, for empty containers, which have no line of their own, and to any depth that the reader takes.

A value has no text if one of its integers is too long, and then nothing changes.  A listener that breaks off
stops the edit as well, but it is told of a context that has been stored.
-/

namespace TemplateWorkbench

open Json (NamesDistinctWithin depthLimit)

/-- A value that is given as a context: no text, which would be the text of one, and not null, which asks for
the sample. -/
def Json.IsGiven : Json → Prop
  | .null | .string _ => False
  | _ => True

/-- The text that is kept for a value that is given. -/
theorem contextText_of_isGiven {value : Json} (hgiven : value.IsGiven) :
    contextText value = Json.write .asciiIndented value := by
  cases value with
  | null => cases hgiven
  | string text => cases hgiven
  | bool _ | int _ | double _ | list _ | object _ => rfl

/-- The text that is kept for a value is read as the value. -/
theorem parseContext_contextText {value : Json} (hgiven : value.IsGiven)
    (hdistinct : NamesDistinctWithin value) (hdepth : value.depth ≤ depthLimit) {text : String}
    (htext : contextText value = .ok text) : parseContext text = .ok value := by
  rw [contextText_of_isGiven hgiven] at htext
  have hread := Json.read_of_write isFaithful_asciiIndented hdistinct hdepth htext
  rw [parseContext, hread]

/-- A value has a text exactly if its integers are short. -/
theorem isOk_contextText {value : Json} (hgiven : value.IsGiven) :
    (contextText value).isOk = value.integers.all Number.isShort := by
  rw [contextText_of_isGiven hgiven, Json.write, Results.isOk_map, Json.isOk_writeChars]

namespace Session

/-- A session is as before but for its context, which is read as a value and which the engine is given as
this value, and the output is derived from it. -/
structure TakesContext (before after : Session) (value : Json) : Prop where
  reads : parseContext after.state.draft.context = .ok value
  asks : ∀ engine : Engine, after.state.draft.ask engine .render =
    (engine.render before.state.draft.renderMode.templateName before.state.draft.template value).map .rendered
  keeps : after = before.atStage
    { before.state with draft := { before.state.draft with context := after.state.draft.context } }

variable {session : Session} {value : Json}

/-- With a text that is read as the value the session takes the value as its context. -/
theorem takesContext_atStage {text : String} (hread : parseContext text = .ok value) :
    session.TakesContext
      (session.atStage { session.state with draft := { session.state.draft with context := text } }) value where
  reads := hread
  asks engine := by
    simp only [atStage, Draft.ask, hread]
  keeps := rfl

/-- A value with numbers of every kind, empty containers, and a name that is written by its code units. -/
def nestedValue : Json :=
  .object [("\x01😀", mixedValue), ("empty", .list [.list [], .object []])]

theorem canonical_nestedValue : nestedValue.Canonical := by
  have hempty : (Json.list [.list [], .object []]).Canonical := by
    refine .list ?_
    simp only [List.forall_mem_cons, List.not_mem_nil, false_imp_iff, implies_true, and_true]
    exact ⟨.list (by simp), .object (by simp [Json.NamesDistinct]) (by simp)⟩
  refine .object (by simp [Json.NamesDistinct]) ?_
  simp only [List.forall_mem_cons, List.not_mem_nil, false_imp_iff, implies_true, and_true]
  exact ⟨canonical_mixedValue, hempty⟩

end Session

end TemplateWorkbench
