import TemplateWorkbench.Proofs.Results
import TemplateWorkbench.View.Dispatch
import TemplateWorkbench.View.TemplateEngine

/-!
# The calls behind a view

An engine is asked for a view by calls, each of which may be refused.  Rendering takes two of them: the
template is registered in an environment, and the environment then renders it.  The other views take one
call each:

```text
render         create, and render if there is an environment; nothing without a context
tokens         tokens
ast            tree
instructions   programs
```

An adapter holds the calls one by one, together with what it records of each.  The template engine is an
adapter that records nothing.  This file says which calls a draft makes for a view and what comes of
them: `Refuses` if one of them is refused, `Gives` if all are answered.
-/

namespace TemplateWorkbench

open Results

/-! ### Adapters -/

/-- A call of an engine. -/
inductive Call where
  | create (name : String) (source : Json)
  | render (name : String) (context : Json)
  | tokens (source : Json)
  | tree (source : Json)
  | programs (source : Json)
deriving Repr

/-- The view that a call is made for. -/
def Call.view : Call → ViewMode
  | create _ _ | render _ _ => .render
  | tokens _ => .tokens
  | tree _ => .ast
  | programs _ => .instructions

/-- An engine by its calls. -/
structure Adapter where
  /-- What templates are registered in. -/
  Environment : Type
  create : (name : String) → (source : Json) → Except Refusal Environment
  render : Environment → (name : String) → (context : Json) → Except Refusal String
  tokens : (source : Json) → Except Refusal (List PlacedEntry)
  tree : (source : Json) → Except Refusal Tree
  programs : (source : Json) → Except Refusal Programs
  /-- What is recorded of a call before it is answered. -/
  note : Call → List String

namespace Adapter

/-- The engine that makes the calls of an adapter. -/
def engine (adapter : Adapter) : Engine where
  render name source context :=
    match adapter.create name source with
    | .error refusal => ⟨.error refusal, adapter.note (.create name source)⟩
    | .ok environment =>
      ⟨adapter.render environment name context,
        adapter.note (.create name source) ++ adapter.note (.render name context)⟩
  tokens source := ⟨adapter.tokens source, adapter.note (.tokens source)⟩
  tree source := ⟨adapter.tree source, adapter.note (.tree source)⟩
  programs source := ⟨adapter.programs source, adapter.note (.programs source)⟩

end Adapter

/-- The template engine by its calls. -/
def templateAdapter (strict : Bool) : Adapter where
  Environment := Template.Environment
  create name source :=
    match source with
    | .string text =>
      (Template.Environment.ofSources strict [(name, text)]).mapError .ofRejection
    | _ => .error TemplateEngine.notCompiled
  render environment name context := (environment.render name context).1.mapError .reported
  tokens source := ((templateEngine strict).tokens source).result
  tree source := ((templateEngine strict).tree source).result
  programs source := ((templateEngine strict).programs source).result
  note _ := []

/-- The template engine makes these calls. -/
theorem engine_templateAdapter (strict : Bool) :
    (templateAdapter strict).engine = templateEngine strict := by
  have hrender (name : String) (source context : Json) :
      (templateAdapter strict).engine.render name source context =
        (templateEngine strict).render name source context := by
    cases source with
    | string text =>
        simp only [Adapter.engine, templateAdapter, templateEngine, TemplateEngine.render]
        cases Template.Environment.ofSources strict [(name, text)] with
        | error rejection => rfl
        | ok environment =>
            dsimp only [Except.mapError]
            cases (environment.render name context).1 <;> rfl
    | _ => rfl
  -- An engine is no more than its four functions.
  have hfields (first second : Engine) (hrender : first.render = second.render)
      (htokens : first.tokens = second.tokens) (htree : first.tree = second.tree)
      (hprograms : first.programs = second.programs) : first = second := by
    cases first
    cases second
    simp_all
  exact hfields _ _ (funext fun name => funext fun source => funext (hrender name source)) rfl rfl rfl

namespace Adapter

variable {adapter : Adapter} {draft : Draft} {view : ViewMode} {refusal : Refusal} {payload : Payload}

/-! ### Calls -/

/-- The calls that a draft makes for a view, one after another. -/
def callsFor (adapter : Adapter) (draft : Draft) : ViewMode → List Call
  | .render =>
    match parseContext draft.context with
    | .error _ => []
    | .ok context =>
      let name := draft.renderMode.templateName
      .create name draft.template ::
        match adapter.create name draft.template with
        | .error _ => []
        | .ok _ => [.render name context]
  | .tokens => [.tokens draft.template]
  | .ast => [.tree draft.template]
  | .instructions => [.programs draft.template]

/-- The calls are made for the view alone. -/
theorem view_of_mem_callsFor {call : Call} (hcall : call ∈ adapter.callsFor draft view) :
    call.view = view := by
  cases view with
  | render =>
      simp only [callsFor] at hcall
      split at hcall
      · cases hcall
      · rcases List.mem_cons.mp hcall with rfl | hrender
        · rfl
        · split at hrender
          · cases hrender
          · rw [List.mem_singleton.mp hrender]
            rfl
  | tokens | ast | instructions =>
      rw [List.mem_singleton.mp hcall]
      rfl

/-- A derivation records what the adapter records of its calls. -/
theorem record_derive (adapter : Adapter) (draft : Draft) (view : ViewMode) :
    (draft.derive adapter.engine view).record =
      (adapter.callsFor draft view).flatMap adapter.note := by
  cases view with
  | render =>
      simp only [Draft.derive, Draft.ask, callsFor]
      cases parseContext draft.context with
      | error message => rfl
      | ok context =>
          simp only [engine, Answer.map]
          cases adapter.create draft.renderMode.templateName draft.template with
          | error refusal => simp
          | ok environment => simp
  | tokens | ast | instructions => simp [Draft.derive, Draft.ask, callsFor, engine, Answer.map]

/-! ### What comes of them -/

/-- A call that the draft makes for the view is refused. -/
inductive Refuses (adapter : Adapter) (draft : Draft) : ViewMode → Refusal → Prop
  | create {context : Json} {refusal : Refusal} (hcontext : parseContext draft.context = .ok context)
      (hcreate : adapter.create draft.renderMode.templateName draft.template = .error refusal) :
      Refuses adapter draft .render refusal
  | render {context : Json} {environment : adapter.Environment} {refusal : Refusal}
      (hcontext : parseContext draft.context = .ok context)
      (hcreate : adapter.create draft.renderMode.templateName draft.template = .ok environment)
      (hrender : adapter.render environment draft.renderMode.templateName context = .error refusal) :
      Refuses adapter draft .render refusal
  | tokens {refusal : Refusal} (htokens : adapter.tokens draft.template = .error refusal) :
      Refuses adapter draft .tokens refusal
  | tree {refusal : Refusal} (htree : adapter.tree draft.template = .error refusal) :
      Refuses adapter draft .ast refusal
  | programs {refusal : Refusal} (hprograms : adapter.programs draft.template = .error refusal) :
      Refuses adapter draft .instructions refusal

/-- The calls that the draft makes for the view are answered, and this is what is shown. -/
inductive Gives (adapter : Adapter) (draft : Draft) : ViewMode → Payload → Prop
  | rendered {context : Json} {environment : adapter.Environment} {text : String}
      (hcontext : parseContext draft.context = .ok context)
      (hcreate : adapter.create draft.renderMode.templateName draft.template = .ok environment)
      (hrender : adapter.render environment draft.renderMode.templateName context = .ok text) :
      Gives adapter draft .render (.rendered text)
  | tokens {entries : List PlacedEntry} (htokens : adapter.tokens draft.template = .ok entries) :
      Gives adapter draft .tokens (.tokens entries)
  | tree {tree : Tree} (htree : adapter.tree draft.template = .ok tree) :
      Gives adapter draft .ast (.tree tree)
  | programs {programs : Programs} (hprograms : adapter.programs draft.template = .ok programs) :
      Gives adapter draft .instructions (.programs programs.sorted)

/-- A draft is answered with what its calls give. -/
theorem result_eq_ok_iff :
    (draft.ask adapter.engine view).result = .ok payload ↔ adapter.Gives draft view payload := by
  constructor
  · intro hask
    cases view with
    | render =>
        simp only [Draft.ask] at hask
        split at hask
        · cases hask
        · next context hcontext =>
            obtain ⟨text, htext, rfl⟩ := map_eq_ok_iff.mp hask
            simp only [engine] at htext
            split at htext
            · cases htext
            · next environment hcreate => exact .rendered hcontext hcreate htext
    | tokens =>
        obtain ⟨entries, hentries, rfl⟩ := map_eq_ok_iff.mp hask
        exact .tokens hentries
    | ast =>
        obtain ⟨tree, htree, rfl⟩ := map_eq_ok_iff.mp hask
        exact .tree htree
    | instructions =>
        obtain ⟨programs, hprograms, rfl⟩ := map_eq_ok_iff.mp hask
        exact .programs hprograms
  · intro hgives
    cases hgives with
    | rendered hcontext hcreate hrender =>
        simp only [Draft.ask, hcontext, engine, hcreate, hrender, Answer.map]
        rfl
    | tokens htokens => exact map_eq_ok_iff.mpr ⟨_, htokens, rfl⟩
    | tree htree => exact map_eq_ok_iff.mpr ⟨_, htree, rfl⟩
    | programs hprograms => exact map_eq_ok_iff.mpr ⟨_, hprograms, rfl⟩

/-- A draft is refused if its context cannot be read where it is needed, or if one of its calls is. -/
theorem result_eq_error_iff :
    (draft.ask adapter.engine view).result = .error refusal ↔
      (∃ message, view = .render ∧ parseContext draft.context = .error message ∧
        refusal = .badContext message) ∨ adapter.Refuses draft view refusal := by
  constructor
  · intro hask
    -- Only the render view reads the context, and it may be refused at two of its calls.
    cases view with
    | render =>
        simp only [Draft.ask] at hask
        split at hask
        · next message hcontext =>
            cases hask
            exact .inl ⟨message, rfl, hcontext, rfl⟩
        · next context hcontext =>
            have hrefused := map_eq_error_iff.mp hask
            simp only [engine] at hrefused
            split at hrefused
            · next other hcreate =>
                cases hrefused
                exact .inr (.create hcontext hcreate)
            · next environment hcreate => exact .inr (.render hcontext hcreate hrefused)
    | tokens => exact .inr (.tokens (map_eq_error_iff.mp hask))
    | ast => exact .inr (.tree (map_eq_error_iff.mp hask))
    | instructions => exact .inr (.programs (map_eq_error_iff.mp hask))
  · rintro (⟨message, rfl, hcontext, rfl⟩ | hrefuses)
    · simp only [Draft.ask, hcontext]
    · cases hrefuses with
      | create hcontext hcreate =>
          simp only [Draft.ask, hcontext, engine, hcreate, Answer.map]
          rfl
      | render hcontext hcreate hrender =>
          simp only [Draft.ask, hcontext, engine, hcreate, hrender, Answer.map]
          rfl
      | tokens htokens => exact map_eq_error_iff.mpr htokens
      | tree htree => exact map_eq_error_iff.mpr htree
      | programs hprograms => exact map_eq_error_iff.mpr hprograms

end Adapter

end TemplateWorkbench

/-!
## Failures stay inside a view

Whatever happens while a view is derived, there is an outcome.  It blames the context exactly if the view
needs the context and cannot read it, and then the engine has not been asked for anything.  It blames the
engine exactly if a call is refused, in the engine's own words or with the kind of what went wrong before
them.  It is a success exactly if all calls are answered, and then shows what they gave.

No call may put the blame on the context itself, for an outcome would not tell whether that was read.
-/

namespace TemplateWorkbench

/-! ### What is blamed -/

/-- Whether a view needs the context of a draft and cannot read it. -/
def Draft.IsUnread (draft : Draft) (view : ViewMode) : Prop :=
  view = .render ∧ ∃ fault, Json.read draft.context = .error fault

/-- A message that shows a refusal: the words of the engine as they are, any others after their kind. -/
inductive Refusal.Says : Refusal → String → Prop
  | reported (message : String) : Says (.reported message) message
  | unforeseen (kind message : String) : Says (.unforeseen kind message) (kind ++ ": " ++ message)

/-- Whether no call is refused with the blame on the context. -/
def Adapter.LeavesContext (adapter : Adapter) : Prop :=
  ∀ draft view message, ¬ adapter.Refuses draft view (.badContext message)

theorem exists_parseContext_eq_error_iff {context : String} :
    (∃ message, parseContext context = .error message) ↔ ∃ fault, Json.read context = .error fault := by
  unfold parseContext
  cases Json.read context <;> simp

namespace Outcome

variable {result : Except Refusal Payload}

theorem ofResult_eq_success_iff {payload : Payload} :
    ofResult result = .success payload ↔ result = .ok payload := by
  rcases result with (message | message | ⟨kind, message⟩) | found <;> simp [ofResult]

theorem ofResult_eq_engineError_iff {message : String} :
    ofResult result = .engineError message ↔
      ∃ refusal, result = .error refusal ∧ refusal.Says message := by
  constructor
  · intro hengine
    rcases result with (said | said | ⟨kind, said⟩) | found <;> cases hengine
    · exact ⟨_, rfl, .reported _⟩
    · exact ⟨_, rfl, .unforeseen _ _⟩
  · rintro ⟨refusal, rfl, hsays⟩
    cases hsays <;> rfl

theorem kind_ofResult_eq_contextError_iff :
    (ofResult result).kind = .contextError ↔ ∃ message, result = .error (.badContext message) := by
  rcases result with (said | said | ⟨name, said⟩) | found <;> simp [ofResult, kind]

end Outcome

/-! ### Deriving -/

namespace Draft

variable {draft : Draft} {view : ViewMode} {adapter : Adapter}

/-- A context that cannot be read settles the outcome before the engine is asked. -/
theorem IsUnread.derive (hunread : draft.IsUnread view) :
    ∃ derivation, derivation.record = [] ∧ ∀ engine, draft.derive engine view = derivation := by
  obtain ⟨rfl, hread⟩ := hunread
  obtain ⟨message, hcontext⟩ := exists_parseContext_eq_error_iff.mpr hread
  let result : Except Refusal Payload := .error (.badContext message)
  exact ⟨⟨.ofResult result, resultLog .render result, []⟩, rfl, fun engine => by
    simp only [Draft.derive, ask, hcontext, result]⟩

/-- Only a context that cannot be read is blamed. -/
theorem kind_derive_eq_contextError_iff (hleaves : adapter.LeavesContext) :
    (draft.derive adapter.engine view).outcome.kind = .contextError ↔ draft.IsUnread view := by
  rw [Draft.derive, Outcome.kind_ofResult_eq_contextError_iff]
  constructor
  · rintro ⟨message, hresult⟩
    rcases Adapter.result_eq_error_iff.mp hresult with ⟨said, hview, hcontext, -⟩ | hrefuses
    · exact ⟨hview, exists_parseContext_eq_error_iff.mp ⟨said, hcontext⟩⟩
    · exact absurd hrefuses (hleaves draft view message)
  · rintro ⟨hview, hread⟩
    obtain ⟨message, hcontext⟩ := exists_parseContext_eq_error_iff.mpr hread
    exact ⟨message, Adapter.result_eq_error_iff.mpr (.inl ⟨message, hview, hcontext, rfl⟩)⟩

/-- The engine is blamed for its refusals. -/
theorem derive_eq_engineError_iff {message : String} :
    (draft.derive adapter.engine view).outcome = .engineError message ↔
      ∃ refusal, adapter.Refuses draft view refusal ∧ refusal.Says message := by
  rw [Draft.derive, Outcome.ofResult_eq_engineError_iff]
  constructor
  · rintro ⟨refusal, hresult, hsays⟩
    rcases Adapter.result_eq_error_iff.mp hresult with ⟨said, -, -, rfl⟩ | hrefuses
    · -- A context that could not be read is blamed for itself.
      cases hsays
    · exact ⟨refusal, hrefuses, hsays⟩
  · rintro ⟨refusal, hrefuses, hsays⟩
    exact ⟨refusal, Adapter.result_eq_error_iff.mpr (.inr hrefuses), hsays⟩

end Draft

/-! ### Dispatching -/

theorem Programs.pairwise_sorted (programs : Programs) :
    (programs.sorted.map (·.1)).Pairwise (· ≤ ·) := by
  have htrans : ∀ a b c : String × List Entry,
      decide (a.1 ≤ b.1) = true → decide (b.1 ≤ c.1) = true → decide (a.1 ≤ c.1) = true := by
    intro a b c hab hbc
    exact decide_eq_true (String.le_trans (of_decide_eq_true hab) (of_decide_eq_true hbc))
  have htotal : ∀ a b : String × List Entry, (decide (a.1 ≤ b.1) || decide (b.1 ≤ a.1)) = true := by
    intro a b
    simpa using String.le_total a.1 b.1
  have hsorted := List.pairwise_mergeSort htrans htotal programs
  rw [List.pairwise_map]
  exact hsorted.imp fun hle => by simpa using hle

/-- An adapter whose environments render nothing, and that knows two blocks. -/
def brokenAdapter : Adapter where
  Environment := Unit
  create _ _ := .ok ()
  render _ _ _ := .error (.unforeseen "KeyError" "'k'")
  tokens _ := .ok []
  tree _ := .error (.reported "no tree")
  programs _ := .ok [("b", []), ("a", [])]
  note call := [call.view.name]

end TemplateWorkbench
