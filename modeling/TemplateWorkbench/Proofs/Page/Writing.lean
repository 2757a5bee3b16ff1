import TemplateWorkbench.Proofs.Page.Panes
import TemplateWorkbench.Proofs.View.EngineViews

/-!
# Sessions over the template engine

What can go wrong in a session over the template engine, if it is only told what it can understand?  No
edit fails and no switch of the view.  The output and the page can be written as long as the integers that
the template writes are short; if the tokens are shown and one of their integers is too long, the output
cannot be written.

The invariant `Sound` holds of a new session and is kept by every valid operation.
-/

namespace TemplateWorkbench

open Number (isShort)
open Results

/-! ### Valid operations -/

/-- Whether a session understands an edit. -/
def Edit.IsValid : Edit → Prop
  | .template source => ∃ text, source = .string text
  | .context value => (contextText value).isOk = true
  | .renderMode choice => ∃ mode : RenderMode, choice = .string mode.name
  | .view choice => ∃ view : ViewMode, choice = .string view.name

namespace Session

/-- Whether a listener never breaks off. -/
def IsQuiet (listener : Listener) : Prop := ∀ outcome, listener.breaksOffAt outcome = false

/-- Whether a session understands an operation. -/
def Operation.IsValid : Operation → Prop
  | .edit change => change.IsValid
  | .applyChanges changes =>
      ∃ members, changes = .object members ∧ ∀ edit ∈ Edit.ofMembers members, edit.IsValid
  | .runView choice => ∃ view : ViewMode, choice = .string view.name
  | .listen listener => IsQuiet listener
  | .attend listeners => ∀ listener ∈ listeners, IsQuiet listener
  | .setHtml _ | .reset | .display _ => True

/-- The fault of an operation, if it has one. -/
def faultOf (session : Session) : Operation → Option SessionFault
  | .edit edit => (session.edit edit).fault
  | .setHtml html => (session.setHtml html).fault
  | .applyChanges changes => (session.applyChanges changes).fault
  | .reset => session.reset.fault
  | .runView choice =>
    match ViewMode.chosenBy choice with
    | .ok _ => none
    | .error unknown => some (.edit (.unknown unknown))
  | .display _ | .listen _ | .attend _ => none

/-! ### Soundness -/

/-- Whether the sizes of the panes can be written. -/
def HasShortSizes (session : Session) : Prop :=
  (session.layout.context.size.toJson.integers ++ session.layout.output.size.toJson.integers ++
    [session.layout.context.minSize]).all isShort = true

/-- A session over the template engine that nothing keeps from working. -/
structure Sound (session : Session) : Prop where
  engine : ∃ strict, session.engine = templateEngine strict
  template : ∃ source, session.state.draft.template = .string source
  fresh : session.Fresh
  sizes : session.HasShortSizes
  quiet : ∀ listener ∈ session.listeners, IsQuiet listener

variable {session : Session}

theorem announce_eq_none {listeners : List Listener} (hquiet : ∀ listener ∈ listeners, IsQuiet listener) :
    (session.announce listeners).2 = none := by
  induction listeners with
  | nil => rfl
  | cons listener rest ih =>
      rw [announce, if_neg (by simp [hquiet listener List.mem_cons_self session.output])]
      exact ih fun other hother => hquiet other (List.mem_cons_of_mem listener hother)

/-- An update to a template that is a text has no fault, and leaves a sound session. -/
theorem Sound.update (hsound : session.Sound) {state : EditorState}
    (htemplate : ∃ source, state.draft.template = .string source) :
    (session.update state).fault = none ∧ (session.update state).session.Sound :=
  ⟨announce_eq_none hsound.quiet,
    ⟨hsound.engine, htemplate, fresh_update session state, hsound.sizes, hsound.quiet⟩⟩

theorem chosenBy_renderMode (mode : RenderMode) : RenderMode.chosenBy (.string mode.name) = .ok mode := by
  cases mode <;> rfl

theorem chosenBy_view (view : ViewMode) : ViewMode.chosenBy (.string view.name) = .ok view := by
  cases view <;> rfl

/-- A valid edit is made, and the template stays a text. -/
theorem exists_edited {state : EditorState} (htemplate : ∃ source, state.draft.template = .string source)
    {edit : Edit} (hvalid : edit.IsValid) :
    ∃ edited, state.edit edit = .ok edited ∧ ∃ source, edited.draft.template = .string source := by
  cases edit with
  | template source => exact ⟨_, rfl, hvalid⟩
  | context value =>
      have hvalid : (contextText value).isOk = true := hvalid
      cases htext : contextText value with
      | ok text =>
          refine ⟨{ state with draft := { state.draft with context := text } }, ?_, htemplate⟩
          rw [EditorState.edit, htext]
      | error fault =>
          rw [htext] at hvalid
          cases hvalid
  | renderMode choice =>
      obtain ⟨mode, rfl⟩ := hvalid
      refine ⟨{ state with draft := { state.draft with renderMode := mode } }, ?_, htemplate⟩
      rw [EditorState.edit, chosenBy_renderMode]
  | view choice =>
      obtain ⟨view, rfl⟩ := hvalid
      refine ⟨{ state with view }, ?_, htemplate⟩
      rw [EditorState.edit, chosenBy_view]

theorem Sound.edit (hsound : session.Sound) {edit : Edit} (hvalid : edit.IsValid) :
    (session.edit edit).fault = none ∧ (session.edit edit).session.Sound := by
  obtain ⟨edited, hedited, htemplate⟩ := exists_edited hsound.template hvalid
  rw [Session.edit, hedited]
  exact hsound.update htemplate

theorem Sound.editAll (hsound : session.Sound) {edits : List Edit}
    (hvalid : ∀ edit ∈ edits, edit.IsValid) :
    (session.editAll edits).fault = none ∧ (session.editAll edits).session.Sound := by
  induction edits generalizing session with
  | nil => exact ⟨rfl, hsound⟩
  | cons edit rest ih =>
      obtain ⟨hfault, hnext⟩ := hsound.edit (hvalid edit List.mem_cons_self)
      rw [Session.editAll]
      simp only [hfault]
      exact ih hnext fun other hother => hvalid other (List.mem_cons_of_mem edit hother)

/-- A valid operation on a sound session has no fault, and leaves a sound session. -/
theorem Sound.perform (hsound : session.Sound) {operation : Operation} (hvalid : operation.IsValid) :
    session.faultOf operation = none ∧ (session.perform operation).Sound := by
  cases operation with
  | edit edit => exact hsound.edit hvalid
  | setHtml html => exact hsound.update hsound.template
  | applyChanges changes =>
      obtain ⟨members, rfl, hedits⟩ := hvalid
      exact hsound.editAll hedits
  | reset => exact hsound.update ⟨_, rfl⟩
  | runView choice =>
      obtain ⟨view, rfl⟩ := hvalid
      exact ⟨by rw [faultOf, chosenBy_view], hsound⟩
  | display uid => exact ⟨rfl, hsound⟩
  | listen listener =>
      refine ⟨rfl, ⟨hsound.engine, hsound.template, hsound.fresh, hsound.sizes, fun other hother => ?_⟩⟩
      rcases List.mem_append.mp hother with hmem | hmem
      · exact hsound.quiet other hmem
      · rw [List.mem_singleton.mp hmem]
        exact hvalid
  | attend listeners =>
      exact ⟨rfl, ⟨hsound.engine, hsound.template, hsound.fresh, hsound.sizes, hvalid⟩⟩

theorem Sound.performAll (hsound : session.Sound) {operations : List Operation}
    (hvalid : ∀ operation ∈ operations, operation.IsValid) : (session.performAll operations).Sound := by
  induction operations generalizing session with
  | nil => exact hsound
  | cons operation rest ih =>
      exact ih (hsound.perform (hvalid operation List.mem_cons_self)).2
        fun other hother => hvalid other (List.mem_cons_of_mem operation hother)

/-! ### Writing -/

/-- The integers that the template of a session writes are short. -/
def WritesShort (session : Session) : Prop :=
  ∀ source, session.state.draft.template = .string source →
    (Template.writtenIntegers source.toList).all isShort = true

/-- What any view gives can be written out. -/
theorem Sound.isWritable (hsound : session.Sound) (hshort : session.WritesShort) (view : ViewMode) :
    (session.dispatch (some view)).IsWritable := by
  obtain ⟨strict, hengine⟩ := hsound.engine
  obtain ⟨source, htemplate⟩ := hsound.template
  have hderive := Draft.isWritable_derive strict htemplate (hshort source htemplate) view
  rw [← hengine] at hderive
  exact hderive

theorem Sound.isOk_outputText (hsound : session.Sound) (hshort : session.WritesShort) :
    session.outputText.isOk = true := by
  have hselected : session.dispatch none = session.dispatch (some session.state.view) := rfl
  rw [hsound.fresh.outputText_eq, hselected]
  exact (hsound.isWritable hshort session.state.view).isOk_text

theorem Sound.isOk_outputs (hsound : session.Sound) (hshort : session.WritesShort) (uid : String) :
    (Page.outputs session uid).isOk = true := by
  have hpane (view : ViewMode) : (Page.outputPane session view).isOk = true := by
    simp only [Page.outputPane, decide_eq_true_eq, hsound.fresh.shown_eq]
    rw [isOk_bind_pure]
    exact (hsound.isWritable hshort view).isOk_markup view
  rw [Page.outputs, isOk_bind_pure, isOk_mapM, List.all_eq_true]
  exact fun view _ => hpane view

/-- The state for the script holds no integers but the sizes of the panes. -/
theorem Sound.isOk_stateScript (hsound : session.Sound) (uid : String) :
    (Page.stateScript session uid).isOk = true := by
  obtain ⟨source, htemplate⟩ := hsound.template
  have hsizes := hsound.sizes
  have htotal : isShort Page.totalHeight = true := by
    rw [isShort, Number.isTooLong_eq_false_iff.mpr (by decide +kernel)]
    rfl
  rw [HasShortSizes, List.all_append, List.all_append, List.all_cons, List.all_nil, Bool.and_true] at hsizes
  simp only [Bool.and_eq_true] at hsizes
  rw [Page.stateScript, isOk_bind_pure, Json.isOk_line]
  simp [Page.embeddedState, EditorState.members, htemplate, Json.integers, Json.memberIntegers, hsizes,
    htotal]

theorem Sound.isOk_document (hsound : session.Sound) (hshort : session.WritesShort) (uid : String) :
    (Page.document session uid).isOk = true := by
  obtain ⟨source, htemplate⟩ := hsound.template
  have heditors : (Page.editors session uid).isOk = true := by
    simp only [Page.editors, htemplate]
    rfl
  refine isOk_bind heditors fun editors _ => ?_
  refine isOk_bind (isOk_mapError.trans (hsound.isOk_outputs hshort uid)) fun outputs _ => ?_
  rw [isOk_bind_pure, isOk_mapError]
  exact hsound.isOk_stateScript uid

/-- The list of tokens can be written exactly if the engine refuses it or the template writes no integer
that is too long. -/
theorem Sound.isOk_outputText_iff (hsound : session.Sound) (hview : session.state.view = .tokens) :
    session.outputText.isOk = true ↔ (session.output.isSuccess = true → session.WritesShort) := by
  obtain ⟨strict, hengine⟩ := hsound.engine
  obtain ⟨source, htemplate⟩ := hsound.template
  have houtput : session.output =
      (session.state.draft.derive (templateEngine strict) .tokens).outcome := by
    rw [hsound.fresh, dispatch, hengine, hview]
    rfl
  have hshort : session.WritesShort ↔
      (Template.writtenIntegers source.toList).all isShort = true := by
    constructor
    · exact fun hwrites => hwrites source htemplate
    · intro hall other hother
      cases htemplate.symm.trans hother
      exact hall
  rw [outputText, houtput, hshort]
  exact Draft.isOk_text_tokens_iff strict htemplate

/-! ### Whole sessions -/

theorem template_of_startState {config : Config} {start : SessionStart} {state : EditorState}
    (hstate : startState config start = .ok state) :
    state.draft.template = start.template.getD (.string Sample.template) := by
  unfold startState at hstate
  split at hstate
  · obtain ⟨context, -, hstate⟩ := bind_eq_ok_iff.mp hstate
    obtain ⟨renderMode, -, hstate⟩ := bind_eq_ok_iff.mp hstate
    obtain ⟨view, -, hstate⟩ := bind_eq_ok_iff.mp hstate
    cases hstate
    rfl
  · cases hstate

theorem sound_create {config : Config} {strict : Bool} {store : SettingsStore} {start : SessionStart}
    (hcreate : Session.create config (templateEngine strict) store start = .ok session)
    (hstart : ∀ template ∈ start.template, ∃ source, template = .string source)
    (hsizes : session.HasShortSizes) : session.Sound := by
  have hfresh := fresh_create hcreate
  obtain ⟨layout, -, hrest⟩ := bind_eq_ok_iff.mp hcreate
  obtain ⟨state, hstate, hsession⟩ := bind_eq_ok_iff.mp hrest
  cases hsession
  refine ⟨⟨strict, rfl⟩, ?_, hfresh, hsizes, nofun⟩
  have htemplate := template_of_startState hstate
  cases hgiven : start.template with
  | none => exact ⟨Sample.template, by rw [htemplate, hgiven]; rfl⟩
  | some template =>
      obtain ⟨source, rfl⟩ := hstart template hgiven
      exact ⟨source, by rw [htemplate, hgiven]; rfl⟩

/-- A configuration that keeps settings nowhere. -/
def plainConfig : Config := { settingsPath := none }

/-- A session that shows the tokens of a template that prints a word. -/
def startWith (word : String) : SessionStart :=
  { template := some (.string (String.ofList (Template.Alternation.tag word)))
    context := .string "\x7b\x7d", view := "tokens" }

/-- Such a session starts, and its sizes can be written. -/
theorem exists_created (word : String) :
    ∃ session, Session.create plainConfig (templateEngine false) ⟨none, "s"⟩ (startWith word) =
        .ok session ∧ session.HasShortSizes ∧
      session.output = (session.state.draft.derive (templateEngine false) .tokens).outcome ∧
      session.state.draft.template = .string (String.ofList (Template.Alternation.tag word)) := by
  have hsizes : (layoutOf plainConfig ⟨none, "s"⟩).toOption.map (fun layout =>
      (layout.context.size.toJson.integers ++ layout.output.size.toJson.integers ++
        [layout.context.minSize]).all isShort) = some true := by
    decide +kernel
  cases hlayout : layoutOf plainConfig ⟨none, "s"⟩ with
  | error fault =>
      rw [hlayout] at hsizes
      cases hsizes
  | ok layout =>
      rw [hlayout] at hsizes
      let draft : Draft :=
        ⟨.string (String.ofList (Template.Alternation.tag word)), "\x7b\x7d", .html⟩
      refine ⟨⟨plainConfig, templateEngine false, layout, ⟨draft, .tokens⟩,
        EditorState.outcome ⟨draft, .tokens⟩ (templateEngine false), []⟩, ?_,
        Option.some.inj hsizes, ?_, rfl⟩
      · rw [Session.create, hlayout]
        rfl
      · simp only [EditorState.outcome]

/-- Operations that show the tree of another numeral as plain text. -/
def numeralOperations : List Operation :=
  [.edit (.view (.string "ast")), .setHtml false,
    .edit (.template (.string "\x7b\x7b 0xff \x7d\x7d"))]

end Session

end TemplateWorkbench
