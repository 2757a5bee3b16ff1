import TemplateWorkbench.Proofs.View.Calls
import TemplateWorkbench.Session.Edit

/-!
# Dispatching has no history

A dispatcher remembers which view is selected, and nothing of what it has derived.  This file runs a
dispatcher through steps, some of which may fail, and compares each of them with the same step on a
dispatcher that has just been made.

There are two statements.  One is about one run: the selection is that of the last step that selected
something, and a step that derives a view gives what a new dispatcher gives for it, with the same calls.
The other is about two runs that differ in contexts and render modes only: they can be told apart by
renderings and by nothing else.
-/

namespace TemplateWorkbench

/-! ### Steps -/

/-- What a dispatcher can be told.  Views are chosen by values, and a view that is derived is the selected
one unless another is chosen. -/
inductive DispatchStep where
  | select (choice : Json)
  | dispatch (draft : Draft) (choice : Option Json)

/-- What comes of a step. -/
inductive DispatchResult where
  | selected
  | unknown (choice : UnknownChoice)
  | derived (view : ViewMode) (derivation : Derivation)

/-- The view that a choice comes to where another one is selected. -/
def effectiveView (selected : ViewMode) (choice : Option Json) : Except UnknownChoice ViewMode :=
  choice.elim (.ok selected) ViewMode.chosenBy

namespace Dispatcher

/-- Selects the view that a value chooses. -/
def selectBy (dispatcher : Dispatcher) (choice : Json) : Except UnknownChoice Dispatcher := do
  pure { dispatcher with mode := ← ViewMode.chosenBy choice }

/-- A text chooses the view of its name. -/
theorem selectBy_string (dispatcher : Dispatcher) (name : String) :
    dispatcher.selectBy (.string name) = dispatcher.select name := by
  simp only [selectBy, select, ViewMode.chosenBy, chosen, ViewMode.ofName]
  cases ViewMode.ofName? name <;> rfl

/-- The dispatcher after a step, and what comes of the step.  A step with an unknown choice changes
nothing. -/
def perform (dispatcher : Dispatcher) : DispatchStep → Dispatcher × DispatchResult
  | .select choice =>
    match dispatcher.selectBy choice with
    | .ok after => (after, .selected)
    | .error unknown => (dispatcher, .unknown unknown)
  | .dispatch draft choice =>
    match effectiveView dispatcher.mode choice with
    | .ok view => (dispatcher, .derived view (dispatcher.dispatch draft (some view)))
    | .error unknown => (dispatcher, .unknown unknown)

/-- The dispatcher after steps one after another, and what comes of each. -/
def performAll (dispatcher : Dispatcher) : List DispatchStep → Dispatcher × List DispatchResult
  | [] => (dispatcher, [])
  | step :: rest =>
    let done := dispatcher.perform step
    let others := done.1.performAll rest
    (others.1, done.2 :: others.2)

end Dispatcher

/-! ### The selection -/

/-- The view that a step selects, if it selects one. -/
def DispatchStep.selection? : DispatchStep → Option ViewMode
  | select choice => (ViewMode.chosenBy choice).toOption
  | dispatch _ _ => none

/-- The view that the last of some steps selected, of those that selected one. -/
def lastSelected (initial : ViewMode) (steps : List DispatchStep) : ViewMode :=
  (steps.filterMap DispatchStep.selection?).getLast?.getD initial

theorem lastSelected_cons (initial : ViewMode) (step : DispatchStep) (rest : List DispatchStep) :
    lastSelected initial (step :: rest) = lastSelected (step.selection?.getD initial) rest := by
  unfold lastSelected
  cases hselection : step.selection? with
  | none => rw [List.filterMap_cons_none hselection, Option.getD_none]
  | some view =>
      rw [List.filterMap_cons_some hselection, List.getLast?_cons, Option.getD_some, Option.getD_some]

namespace Dispatcher

variable {dispatcher : Dispatcher} {engine : Engine}

/-- A step can only change the selection. -/
theorem fst_perform (dispatcher : Dispatcher) (step : DispatchStep) :
    (dispatcher.perform step).1 = ⟨dispatcher.engine, step.selection?.getD dispatcher.mode⟩ := by
  cases step with
  | select choice =>
      simp only [perform, selectBy, DispatchStep.selection?]
      cases ViewMode.chosenBy choice <;> rfl
  | dispatch draft choice =>
      simp only [perform, DispatchStep.selection?]
      cases effectiveView dispatcher.mode choice <;> rfl

theorem fst_performAll (dispatcher : Dispatcher) (steps : List DispatchStep) :
    (dispatcher.performAll steps).1 = ⟨dispatcher.engine, lastSelected dispatcher.mode steps⟩ := by
  induction steps generalizing dispatcher with
  | nil => rfl
  | cons step rest ih =>
      simp only [performAll]
      rw [ih, fst_perform, lastSelected_cons]

theorem snd_performAll_append (dispatcher : Dispatcher) (before after : List DispatchStep) :
    (dispatcher.performAll (before ++ after)).2 =
      (dispatcher.performAll before).2 ++ ((dispatcher.performAll before).1.performAll after).2 := by
  induction before generalizing dispatcher with
  | nil => rfl
  | cons step rest ih =>
      simp only [List.cons_append, performAll]
      rw [ih]

theorem length_snd_performAll (dispatcher : Dispatcher) (steps : List DispatchStep) :
    (dispatcher.performAll steps).2.length = steps.length := by
  induction steps generalizing dispatcher with
  | nil => rfl
  | cons step rest ih => rw [performAll, List.length_cons, ih, List.length_cons]

/-- What a step comes to is settled by the selection that the steps before it leave. -/
theorem snd_performAll_getElem? (dispatcher : Dispatcher) (before : List DispatchStep)
    (step : DispatchStep) (after : List DispatchStep) :
    (dispatcher.performAll (before ++ step :: after)).2[before.length]? =
      some ((Dispatcher.mk dispatcher.engine (lastSelected dispatcher.mode before)).perform step).2 := by
  rw [snd_performAll_append, fst_performAll,
    List.getElem?_append_right (Nat.le_of_eq (length_snd_performAll dispatcher before)),
    length_snd_performAll, Nat.sub_self, performAll]
  rfl

end Dispatcher

/-! ### Contexts and render modes -/

/-- Steps that are the same but for the contexts and the render modes of drafts. -/
inductive DispatchStep.SameTemplate : DispatchStep → DispatchStep → Prop
  | select (choice : Json) : SameTemplate (.select choice) (.select choice)
  | dispatch {draft other : Draft} (htemplate : draft.template = other.template)
      (choice : Option Json) : SameTemplate (.dispatch draft choice) (.dispatch other choice)

/-- Results that are the same unless both are renderings. -/
inductive DispatchResult.SameOutsideRender : DispatchResult → DispatchResult → Prop
  | refl (result : DispatchResult) : SameOutsideRender result result
  | rendered (first second : Derivation) :
      SameOutsideRender (.derived .render first) (.derived .render second)

/-- Only rendering looks at anything but the template. -/
theorem Draft.derive_eq_of_template {draft other : Draft} (htemplate : draft.template = other.template)
    (engine : Engine) {view : ViewMode} (hview : view ≠ .render) :
    draft.derive engine view = other.derive engine view := by
  cases view with
  | render => exact absurd rfl hview
  | tokens | ast | instructions => simp only [Draft.derive, Draft.ask, htemplate]

namespace Dispatcher

theorem sameOutsideRender_perform (dispatcher : Dispatcher) {step other : DispatchStep}
    (hsame : step.SameTemplate other) :
    (dispatcher.perform step).1 = (dispatcher.perform other).1 ∧
      (dispatcher.perform step).2.SameOutsideRender (dispatcher.perform other).2 := by
  cases hsame with
  | select choice => exact ⟨rfl, .refl _⟩
  | @dispatch draft other htemplate choice =>
      unfold perform
      dsimp only
      split
      · next view _ =>
          refine ⟨rfl, ?_⟩
          by_cases hview : view = .render
          · rw [hview]
            exact .rendered _ _
          · have hderive := Draft.derive_eq_of_template htemplate dispatcher.engine hview
            simp only [Dispatcher.dispatch, Option.getD_some, hderive]
            exact .refl _
      · exact ⟨rfl, .refl _⟩

theorem sameOutsideRender_performAll (dispatcher : Dispatcher) {steps others : List DispatchStep}
    (hsame : List.Forall₂ DispatchStep.SameTemplate steps others) :
    List.Forall₂ DispatchResult.SameOutsideRender (dispatcher.performAll steps).2
      (dispatcher.performAll others).2 := by
  induction hsame generalizing dispatcher with
  | nil => exact .nil
  | cons hstep _ ih =>
      -- Both runs go on with one dispatcher.
      obtain ⟨hafter, hresult⟩ := dispatcher.sameOutsideRender_perform hstep
      simp only [performAll]
      rw [← hafter]
      exact .cons hresult (ih _)

/-- Whatever a dispatcher has been told, its selection is that of the last step that selected something.
Deriving a view comes to what a new dispatcher makes of the draft for that view: it takes the calls that the
view needs and no others.  Where two runs differ in the contexts and render modes of drafts, only their
renderings differ. -/
theorem performAll_afresh (adapter : Adapter) (initial : ViewMode) (steps : List DispatchStep) :
    let start := Dispatcher.mk adapter.engine initial
    (start.performAll steps).1 = ⟨adapter.engine, lastSelected initial steps⟩ ∧
      (∀ before draft choice after, steps = before ++ .dispatch draft choice :: after →
        ∃ result, (start.performAll steps).2[before.length]? = some result ∧
          match effectiveView (lastSelected initial before) choice with
          | .error unknown => result = .unknown unknown
          | .ok view =>
            let fresh := (Dispatcher.mk adapter.engine view).dispatch draft none
            result = .derived view fresh ∧
              fresh.record = (adapter.callsFor draft view).flatMap adapter.note ∧
              ∀ call ∈ adapter.callsFor draft view, call.view = view) ∧
      ∀ others, List.Forall₂ DispatchStep.SameTemplate steps others →
        List.Forall₂ DispatchResult.SameOutsideRender (start.performAll steps).2
          (start.performAll others).2 := by
  intro start
  refine ⟨start.fst_performAll steps, ?_, fun others => start.sameOutsideRender_performAll⟩
  rintro before draft choice after rfl
  refine ⟨_, start.snd_performAll_getElem? before _ after, ?_⟩
  unfold perform
  dsimp only [start]
  split
  · next unknown hview => rw [hview]
  · next view hview =>
      rw [hview]
      exact ⟨rfl, adapter.record_derive draft view, fun call => Adapter.view_of_mem_callsFor⟩

/-- An adapter that gives nothing but empty views. -/
def emptyAdapter : Adapter where
  Environment := Unit
  create _ _ := .ok ()
  render _ name _ := .ok name
  tokens _ := .ok []
  tree _ := .error (.unforeseen "RecursionError" "too deep")
  programs _ := .ok []
  note call := [call.view.name]

/-- Two runs with an unknown selection, an unknown choice and a view that fails between two dispatches of
the selected view.  They differ in contexts and render modes, one of which cannot be read. -/
theorem performAll_afresh_failing :
    let draft (context : String) (mode : RenderMode) : Draft := ⟨.string "x", context, mode⟩
    let steps (context : String) (mode : RenderMode) : List DispatchStep :=
      [.select (.string "tokens"), .select .null, .dispatch (draft context mode) (some (.string "ast")),
        .dispatch (draft context mode) (some (.string "none")), .dispatch (draft context mode) none]
    let start := Dispatcher.mk emptyAdapter.engine .render
    (start.performAll (steps "[" .html)).1.mode = .tokens ∧
      (start.performAll (steps "[" .html)).2[4]? =
        some (.derived .tokens
          ((Dispatcher.mk emptyAdapter.engine .tokens).dispatch (draft "[" .html) none)) ∧
      List.Forall₂ DispatchResult.SameOutsideRender (start.performAll (steps "[" .html)).2
        (start.performAll (steps "\x7b\x7d" .json)).2 := by
  intro draft steps start
  have hdraft (choice : Option Json) : DispatchStep.SameTemplate
      (.dispatch (draft "[" .html) choice) (.dispatch (draft "\x7b\x7d" .json) choice) :=
    .dispatch (by rfl) choice
  have hsame : List.Forall₂ DispatchStep.SameTemplate (steps "[" .html) (steps "\x7b\x7d" .json) :=
    .cons (.select _) (.cons (.select _) (.cons (hdraft _) (.cons (hdraft _) (.cons (hdraft _) .nil))))
  obtain ⟨hafter, hsteps, hothers⟩ := performAll_afresh emptyAdapter .render (steps "[" .html)
  obtain ⟨result, hresult, hfresh⟩ := hsteps ((steps "[" .html).take 4) (draft "[" .html) none [] rfl
  refine ⟨congrArg Dispatcher.mode hafter, hresult.trans ?_, hothers _ hsame⟩
  exact congrArg some hfresh.1

end Dispatcher

end TemplateWorkbench
