import TemplateWorkbench.Proofs.Results
import TemplateWorkbench.Session.Basic

/-!
# The output of a session reflects its state

A session keeps the output that was derived when it was last updated.  This file proves that the kept
output never goes stale: after any operations, those that fail and those that a listener breaks off
included, it is what a fresh derivation of the selected view gives.

The invariant `Fresh` holds of a new session; `fresh_update` is the one place where the output changes,
and every operation either leaves the session alone or ends in updates.
-/

namespace TemplateWorkbench

open Results

/-! ### Fresh derivations -/

/-- The view whose payloads a payload is one of. -/
def Payload.view : Payload → ViewMode
  | .rendered _ => .render
  | .tokens _ => .tokens
  | .tree _ => .ast
  | .programs _ => .instructions

/-- What the dispatcher asks for a view has payloads of that view. -/
theorem Draft.view_of_ask {draft : Draft} {engine : Engine} {view : ViewMode} {payload : Payload}
    (hask : (draft.ask engine view).result = .ok payload) : payload.view = view := by
  cases view with
  | render =>
      simp only [Draft.ask] at hask
      split at hask
      · cases hask
      · obtain ⟨text, -, rfl⟩ := map_eq_ok_iff.mp hask
        rfl
  | tokens =>
      obtain ⟨entries, -, rfl⟩ := map_eq_ok_iff.mp hask
      rfl
  | ast =>
      obtain ⟨tree, -, rfl⟩ := map_eq_ok_iff.mp hask
      rfl
  | instructions =>
      obtain ⟨programs, -, rfl⟩ := map_eq_ok_iff.mp hask
      rfl

theorem Outcome.ofResult_eq_success {result : Except Refusal Payload} {payload : Payload}
    (hsuccess : Outcome.ofResult result = .success payload) : result = .ok payload := by
  match result with
  | .ok _ =>
      cases hsuccess
      rfl
  | .error (.reported _) => cases hsuccess
  | .error (.badContext _) => cases hsuccess
  | .error (.unforeseen _ _) => cases hsuccess

/-- A successful derivation of a view has a payload of that view. -/
theorem Draft.view_of_derive {draft : Draft} {engine : Engine} {view : ViewMode}
    {payload : Payload} (hderive : (draft.derive engine view).outcome = .success payload) :
    payload.view = view :=
  Draft.view_of_ask (Outcome.ofResult_eq_success hderive)

namespace Session

/-- What a session would show if a view were derived now, the selected one by default. -/
def dispatch (session : Session) (view : Option ViewMode) : Outcome Payload :=
  ((⟨session.engine, session.state.view⟩ : Dispatcher).dispatch session.state.draft view).outcome

/-- The kept output is what would be derived now. -/
def Fresh (session : Session) : Prop := session.output = session.dispatch none

theorem fresh_create {config : Config} {engine : Engine} {store : SettingsStore}
    {start : SessionStart} {session : Session}
    (hcreate : create config engine store start = .ok session) : session.Fresh := by
  obtain ⟨layout, -, hstate⟩ := bind_eq_ok_iff.mp hcreate
  obtain ⟨state, -, hsession⟩ := bind_eq_ok_iff.mp hstate
  cases hsession
  rfl

/-! ### Edits -/

/-- Every update derives the output, whether or not a listener breaks off. -/
theorem fresh_update (session : Session) (state : EditorState) :
    (session.update state).session.Fresh := rfl

theorem fresh_edit {session : Session} (hfresh : session.Fresh) (edit : Edit) :
    (session.edit edit).session.Fresh := by
  unfold Session.edit
  split
  · exact fresh_update session _
  · exact hfresh

theorem fresh_editAll {session : Session} (hfresh : session.Fresh) (edits : List Edit) :
    (session.editAll edits).session.Fresh := by
  induction edits generalizing session with
  | nil => exact hfresh
  | cons edit rest ih =>
      -- An edit that fails ends the batch, and it too has left the session fresh.
      have hedit := fresh_edit hfresh edit
      simp only [editAll]
      split
      · exact hedit
      · exact ih hedit

theorem fresh_applyChanges {session : Session} (hfresh : session.Fresh) (changes : Json) :
    (session.applyChanges changes).session.Fresh := by
  unfold applyChanges
  split
  · exact fresh_editAll hfresh _
  · exact hfresh

/-! ### Operations -/

/-- What can be done with a session.  Listeners may be added at any time and may change what they
break off at. -/
inductive Operation where
  | edit (edit : Edit)
  | setHtml (html : Bool)
  | applyChanges (changes : Json)
  | reset
  | runView (view : Json)
  | display (uid : String)
  | listen (listener : Listener)
  | attend (listeners : List Listener)

/-- The session after an operation, whether or not the operation fails.  To run a view and to show
the page change nothing. -/
def perform (session : Session) : Operation → Session
  | .edit edit => (session.edit edit).session
  | .setHtml html => (session.setHtml html).session
  | .applyChanges changes => (session.applyChanges changes).session
  | .reset => session.reset.session
  | .runView _ => session
  | .display _ => session
  | .listen listener => session.listen listener
  | .attend listeners => { session with listeners }

/-- The session after operations one after another. -/
def performAll (session : Session) (operations : List Operation) : Session :=
  operations.foldl perform session

theorem fresh_perform {session : Session} (hfresh : session.Fresh) (operation : Operation) :
    (session.perform operation).Fresh := by
  cases operation with
  | edit edit => exact fresh_edit hfresh edit
  | setHtml html => exact fresh_update session _
  | applyChanges changes => exact fresh_applyChanges hfresh changes
  | reset => exact fresh_update session _
  | runView view => exact hfresh
  | display uid => exact hfresh
  | listen listener => exact hfresh
  | attend listeners => exact hfresh

theorem fresh_performAll {session : Session} (hfresh : session.Fresh)
    (operations : List Operation) : (session.performAll operations).Fresh := by
  induction operations generalizing session with
  | nil => exact hfresh
  | cons operation rest ih => exact ih (fresh_perform hfresh operation)

/-! ### What a fresh session shows -/

/-- The text of the output is that of a fresh derivation. -/
theorem Fresh.outputText_eq {session : Session} (hfresh : session.Fresh) :
    session.outputText = (session.dispatch none).text := congrArg Outcome.text hfresh

/-- The payload of the output is one of the selected view. -/
theorem Fresh.view_of_output {session : Session} (hfresh : session.Fresh) {payload : Payload}
    (hpayload : session.output = .success payload) : payload.view = session.state.view :=
  Draft.view_of_derive (hfresh.symm.trans hpayload)

/-- The outcome shown in the pane of a view. -/
theorem Fresh.shown_eq {session : Session} (hfresh : session.Fresh) (view : ViewMode) :
    (if view = session.state.view then session.output else session.outcomeOf view) =
      session.dispatch (some view) := by
  split
  · next hselected =>
      rw [hfresh, hselected]
      rfl
  · rfl

end Session

end TemplateWorkbench
