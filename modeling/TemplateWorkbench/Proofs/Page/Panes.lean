import TemplateWorkbench.Page.Document
import TemplateWorkbench.Proofs.Session.Freshness

/-!
# The panes of a page

A page has an output pane for every view.  The pane of the selected view is written from the output
that the session keeps, the others are derived when the page is written.  In a session whose output is
fresh there is no difference: every pane shows what its view gives now, and only the selected one is
visible.
-/

namespace TemplateWorkbench

open Results

/-! ### Reading a page -/

namespace Markup

/-- The value of an attribute of an element. -/
def attribute? (name : String) : Markup → Option String
  | element _ attributes _ => (attributes.find? (·.name == name)).bind (·.value)
  | _ => none

@[simp] theorem attribute?_element (name tag : String) (attributes : List MarkupAttribute)
    (children : List Markup) : (element tag attributes children).attribute? name =
      (attributes.find? (·.name == name)).bind (·.value) := rfl

@[simp] theorem attribute?_lineBreak (name : String) : lineBreak.attribute? name = none := rfl

/-- The children of an element. -/
def children : Markup → List Markup
  | element _ _ children => children
  | _ => []

end Markup

namespace Page

/-- The output panes of a page: the parts with the name of a view in the element of outputs. -/
def panes (page : Markup) : List Markup :=
  let outputs := page.children.filter fun part => part.attribute? "class" == some "tpg-outputs"
  (outputs.flatMap Markup.children).filter fun part => (part.attribute? "data-pane").isSome

/-- Whether the style of an element ends by hiding it. -/
def isHidden (pane : Markup) : Bool :=
  match pane.attribute? "style" with
  | some style => "display:none;".toList.isSuffixOf style.toList
  | none => false

/-- A pane that shows what a view gives for a session now. -/
structure ShowsView (session : Session) (view : ViewMode) (pane : Markup) : Prop where
  /-- The pane is that of the view. -/
  name : pane.attribute? "data-pane" = some view.name
  /-- It is styled for the kind of the outcome. -/
  styled : pane.attribute? "class" =
    some s!"tpg-output-pane tpg-{(session.dispatch (some view)).kind.name}"
  /-- Its content is the view's fragment of the outcome. -/
  content : ∃ fragment, (session.dispatch (some view)).markup view = .ok fragment ∧
    pane.children = [fragment]
  /-- It is hidden unless the view is the selected one. -/
  hidden : isHidden pane = true ↔ view ≠ session.state.view

/-! ### One pane -/

/-- The style of a visible pane does not end with the words that hide one. -/
theorem not_hidden_of_height (height : Int) :
    "display:none;".toList.isSuffixOf
      ("height:" ++ pixels height ++ ";" ++ "" : String).toList = false := by
  simp [List.isSuffixOf, String.toList_append, pixels, List.isPrefixOf]

theorem hidden_of_append (front : String) :
    "display:none;".toList.isSuffixOf (front ++ "display:none;" : String).toList = true := by
  rw [List.isSuffixOf_iff_suffix, String.toList_append]
  exact List.suffix_append _ _

/-- In a fresh session the pane of a view shows what the view gives now. -/
theorem showsView_outputPane {session : Session} (hfresh : session.Fresh) {view : ViewMode}
    {pane : Markup} (hpane : outputPane session view = .ok pane) : ShowsView session view pane := by
  simp only [outputPane, decide_eq_true_eq, hfresh.shown_eq] at hpane
  obtain ⟨fragment, hfragment, hmarkup⟩ := bind_eq_ok_iff.mp hpane
  cases hmarkup
  refine ⟨rfl, rfl, ⟨fragment, hfragment, rfl⟩, ?_⟩
  -- Of what is written only the style depends on the selection.
  by_cases hselected : view = session.state.view
  · have hvisible := not_hidden_of_height (sizeOf session.layout.output)
    simp only [hselected, if_true, ne_eq, not_true_eq_false, iff_false, Bool.not_eq_true]
    exact hvisible
  · have hhidden := hidden_of_append
      ("height:" ++ pixels (sizeOf session.layout.output) ++ ";")
    simp only [hselected, if_false, ne_eq, not_false_eq_true, iff_true]
    exact hhidden

/-! ### The whole page -/

theorem class_of_editors {session : Session} {uid : String} {markup : Markup}
    (heditors : editors session uid = .ok markup) :
    markup.attribute? "class" = some "tpg-editors" := by
  simp only [editors] at heditors
  split at heditors
  · cases heditors
    rfl
  · cases heditors

theorem class_of_stateScript {session : Session} {uid : String} {markup : Markup}
    (hscript : stateScript session uid = .ok markup) : markup.attribute? "class" = none := by
  obtain ⟨payload, -, hmarkup⟩ := bind_eq_ok_iff.mp hscript
  cases hmarkup
  rfl

/-- The parts with names of views in the element of outputs are the panes. -/
theorem forall₂_showsView_of_outputs {session : Session} (hfresh : session.Fresh) {uid : String}
    {markup : Markup} (houtputs : outputs session uid = .ok markup) :
    markup.attribute? "class" = some "tpg-outputs" ∧
      List.Forall₂ (ShowsView session) ViewMode.all
        (markup.children.filter fun part => (part.attribute? "data-pane").isSome) := by
  obtain ⟨panes, hpanes, hmarkup⟩ := bind_eq_ok_iff.mp houtputs
  cases hmarkup
  have hshown : List.Forall₂ (ShowsView session) ViewMode.all panes :=
    (forall₂_of_mapM_eq_ok hpanes).imp fun _ _ hpane => showsView_outputPane hfresh hpane
  have hnamed : ∀ pane ∈ panes, (pane.attribute? "data-pane").isSome = true := by
    intro pane hmem
    obtain ⟨view, -, hview⟩ := exists_of_forall₂_of_mem hshown hmem
    rw [hview.name]
    rfl
  refine ⟨rfl, ?_⟩
  rw [Markup.children, List.filter_cons_of_neg (by simp [MarkupAttribute.classes,
    MarkupAttribute.id, MarkupAttribute.of]),
    List.filter_eq_self.mpr hnamed]
  exact hshown

/-- The element of outputs is the only part of its class. -/
theorem panes_of_document {session : Session} {uid : String} {page : Markup}
    (hpage : document session uid = .ok page) :
    ∃ markup, outputs session uid = .ok markup ∧
      (markup.attribute? "class" = some "tpg-outputs" →
        panes page = markup.children.filter fun part => (part.attribute? "data-pane").isSome) := by
  obtain ⟨editors, heditors, hpage⟩ := bind_eq_ok_iff.mp hpage
  obtain ⟨outputs, houtputs, hpage⟩ := bind_eq_ok_iff.mp hpage
  obtain ⟨script, hscript, hpage⟩ := bind_eq_ok_iff.mp hpage
  cases hpage
  refine ⟨outputs, mapError_eq_ok_iff.mp houtputs, fun hclass => ?_⟩
  have hscript := class_of_stateScript (mapError_eq_ok_iff.mp hscript)
  have heditors := class_of_editors heditors
  -- The other parts are of other classes, or of none.
  simp [panes, Markup.children, header, hclass, hscript, heditors, MarkupAttribute.classes,
    MarkupAttribute.id, MarkupAttribute.of]

/-- In a fresh session the panes of the page show what their views give now. -/
theorem forall₂_showsView_of_document {session : Session} (hfresh : session.Fresh) {uid : String}
    {page : Markup} (hpage : document session uid = .ok page) :
    List.Forall₂ (ShowsView session) ViewMode.all (panes page) := by
  obtain ⟨markup, houtputs, hpanes⟩ := panes_of_document hpage
  obtain ⟨hclass, hshown⟩ := forall₂_showsView_of_outputs hfresh houtputs
  rwa [hpanes hclass]

end Page

/-! ### Sessions after any operations -/

/-- What it means that the output of a session reflects its state. -/
structure Session.Reflects (session : Session) : Prop where
  /-- The output is what is derived now. -/
  output : session.output = session.dispatch none
  /-- Its payload is one of the selected view. -/
  view : ∀ payload, session.output = .success payload → payload.view = session.state.view
  /-- Its text is that of what is derived now. -/
  text : session.outputText = (session.dispatch none).text
  /-- Every page that can be written shows in each pane what its view gives now, and hides all panes
  but that of the selected view. -/
  panes : ∀ uid page, Page.document session uid = .ok page →
    List.Forall₂ (Page.ShowsView session) ViewMode.all (Page.panes page)

/-- Whatever has been done with a session, its output reflects its state. -/
theorem Session.reflects_performAll {config : Config} {engine : Engine} {store : SettingsStore}
    {start : SessionStart} {session : Session}
    (hcreate : Session.create config engine store start = .ok session)
    (operations : List Session.Operation) : (session.performAll operations).Reflects := by
  have hfresh : (session.performAll operations).Fresh :=
    fresh_performAll (fresh_create hcreate) operations
  exact ⟨hfresh, fun payload => hfresh.view_of_output, hfresh.outputText_eq,
    fun uid page => Page.forall₂_showsView_of_document hfresh⟩

/-- An engine that answers with the name of the template, and refuses to give a tree. -/
def nameEngine : Engine where
  render name _ _ := ⟨.ok name, []⟩
  tokens _ := ⟨.ok [], []⟩
  tree _ := ⟨.error (.reported "no tree"), []⟩
  programs _ := ⟨.ok [], []⟩

/-- A batch of changes that a listener breaks off after its first member, and one whose last member is
unknown. -/
def brokenOffOperations : List Session.Operation :=
  [.listen ⟨"log", Outcome.isSuccess⟩,
    .applyChanges (.object [("view_mode", .string "tokens"), ("render_mode", .string "text")]),
    .attend [],
    .applyChanges (.object [("render_mode", .string "json"), ("view_mode", .string "none")]),
    .edit (.template (.int 1)), .runView (.string "ast"), .display "u"]

theorem Session.reflects_brokenOff :
    ∃ session, Session.create (Config.standard (.ofText "/home")) nameEngine ⟨none, "s"⟩ {} =
        .ok session ∧
      (session.performAll brokenOffOperations).state.view = .tokens ∧
      (session.performAll brokenOffOperations).state.draft.renderMode = .json ∧
      (session.performAll brokenOffOperations).Reflects := by
  have hmodes : (Session.create (Config.standard (.ofText "/home")) nameEngine ⟨none, "s"⟩
      {}).toOption.map (fun session =>
        let state := (session.performAll brokenOffOperations).state
        (state.view, state.draft.renderMode)) = some (.tokens, .json) := by
    decide +kernel
  cases hcreate : Session.create (Config.standard (.ofText "/home")) nameEngine ⟨none, "s"⟩ {} with
  | error fault =>
      rw [hcreate] at hmodes
      cases hmodes
  | ok session =>
      rw [hcreate] at hmodes
      have hpair := Prod.mk.inj (Option.some.inj hmodes)
      exact ⟨session, rfl, hpair.1, hpair.2,
        Session.reflects_performAll hcreate brokenOffOperations⟩

end TemplateWorkbench
