import TemplateWorkbench.Proofs.Page.Panes
import TemplateWorkbench.Proofs.Page.ScriptElement
import TemplateWorkbench.Proofs.Text.Escaping
import TemplateWorkbench.Proofs.Text.Lines

/-!
# What a browser displays of the texts in a page

The editors of a page are text areas, and the text of a rendering stands in a preformatted element.  A browser
takes what stands behind the opening tag of such an element

```text
up to its closing tag, with every newline a line feed,
without null characters (they are replaced in a text area),
its references decoded,
and then without a line feed that comes first.
```

No tag can end the element early, since an escaped text has no angle brackets, and decoding gives the text
back.  But the text stands right behind the opening tag.  So a text without carriage returns and null
characters is displayed as it is exactly if it does not begin with a line feed; from one that does, the first
line feed is missing.
-/

namespace TemplateWorkbench.Page

open Results
open ScriptElement (passes exactly isTagEnd)

/-! ### Reading an element that holds a text -/

/-- An element in which a browser displays a text. -/
inductive TextElement where
  | editor | preformatted
deriving DecidableEq, Repr

/-- The name of the tags of an element. -/
def TextElement.tag : TextElement → String
  | editor => "textarea"
  | preformatted => "pre"

/-- Whether characters begin with the closing tag of a name, in small or capital letters. -/
def closes (tag : List Char) (characters : List Char) : Bool :=
  passes (exactly ['<', '/'] ++ (tag.map fun c other => other.toLower == c) ++ [isTagEnd]) characters

/-- The characters in front of the closing tag of a name. -/
def textBefore? (tag : List Char) : List Char → Option (List Char)
  | [] => none
  | c :: rest =>
    if closes tag (c :: rest) then some [] else (textBefore? tag rest).map (c :: ·)

/-- A text without a line feed that comes first. -/
def afterLineFeed : List Char → List Char
  | '\n' :: rest => rest
  | text => text

/-- The text that a browser reads in an element, from behind its opening tag on.  A preformatted element is
read only if there are no other tags in it. -/
def TextElement.read? (element : TextElement) (characters : List Char) : Option (List Char) := do
  let content ← textBefore? element.tag.toList (Text.unify characters)
  match element with
  | editor =>
    let content := content.map fun c => if c = '\x00' then '\uFFFD' else c
    pure (afterLineFeed (Text.unescape content))
  | preformatted =>
    if content.contains '<' then none
    else pure (afterLineFeed (Text.unescape (content.filter (· != '\x00'))))

theorem afterLineFeed_eq_self_iff {text : List Char} :
    afterLineFeed text = text ↔ text.head? ≠ some '\n' := by
  cases text with
  | nil => simp [afterLineFeed]
  | cons c rest =>
      by_cases hc : c = '\n'
      · subst hc
        simp [afterLineFeed]
      · rw [afterLineFeed.eq_2 _ (by rintro _ ⟨⟩; exact hc rfl)]
        simp [hc]

/-! ### Escaped texts -/

/-- A text without carriage returns and null characters. -/
def IsClean (text : List Char) : Prop := '\r' ∉ text ∧ '\x00' ∉ text

/-- The references of a page are made of characters that mean nothing to a browser apart from them. -/
theorem notMem_escapeChars {c : Char} (hnames : ∀ name ∈ Text.pageNames, c ∉ name) (hamp : c ≠ '&')
    {text : List Char} (hc : c ∉ text) : c ∉ Text.pageReferences.escapeChars text := by
  intro hmem
  obtain ⟨other, hother, hescaped⟩ := List.mem_flatMap.mp hmem
  rcases Text.escapeChar_cases other with ⟨name, hname, hescape, -⟩ | ⟨hescape, -⟩
  · rw [hescape] at hescaped
    rcases List.mem_cons.mp hescaped with hfirst | hrest
    · exact hamp hfirst
    · exact hnames name hname hrest
  · rw [hescape, List.mem_singleton] at hescaped
    exact hc (hescaped ▸ hother)

theorem IsClean.escapeChars {text : List Char} (hclean : IsClean text) :
    IsClean (Text.pageReferences.escapeChars text) :=
  ⟨notMem_escapeChars (by decide) (by decide) hclean.1, notMem_escapeChars (by decide) (by decide) hclean.2⟩

/-- Only an angle bracket begins a closing tag. -/
theorem closes_of_ne {c : Char} (hc : c ≠ '<') (tag rest : List Char) : closes tag (c :: rest) = false := by
  simp [closes, exactly, passes, hc]

/-- What holds no angle bracket is the content in front of a closing tag. -/
theorem textBefore?_append {tag content rest : List Char} (hplain : '<' ∉ content)
    (hcloses : closes tag ('<' :: rest) = true) : textBefore? tag (content ++ '<' :: rest) = some content := by
  induction content with
  | nil => rw [List.nil_append, textBefore?, if_pos hcloses]
  | cons c content ih =>
      obtain ⟨hc, hmore⟩ := List.ne_and_not_mem_of_not_mem_cons hplain
      rw [List.cons_append, textBefore?, closes_of_ne hc.symm, if_neg Bool.false_ne_true, ih hmore]
      rfl

/-- What is written of a text in an element, behind the opening tag. -/
def closedText (element : TextElement) (text : List Char) : List Char :=
  Text.pageReferences.escapeChars text ++ '<' :: '/' :: (element.tag.toList ++ ['>'])

/-- A browser reads in an element the text that was escaped in it, but for a line feed that comes first. -/
theorem TextElement.read?_closedText (element : TextElement) {text : List Char} (hclean : IsClean text)
    (rest : List Char) : element.read? (closedText element text ++ rest) = some (afterLineFeed text) := by
  obtain ⟨hcr, hnull⟩ := hclean.escapeChars
  have hplain : '<' ∉ Text.pageReferences.escapeChars text :=
    fun hmem => ((Text.isInert_escapeChars text).plain '<' hmem).1 rfl
  have hcloses (rest : List Char) :
      closes element.tag.toList ('<' :: '/' :: (element.tag.toList ++ '>' :: rest)) = true := by
    cases element <;> simp [TextElement.tag, closes, exactly, passes] <;> decide
  have htag : '\r' ∉ '<' :: '/' :: (element.tag.toList ++ ['>']) := by
    cases element <;> decide
  have hunified : Text.unify (closedText element text ++ rest) =
      Text.pageReferences.escapeChars text ++ '<' :: '/' :: (element.tag.toList ++ '>' :: Text.unify rest) := by
    rw [closedText, List.append_assoc, Text.unify_append hcr, Text.unify_append htag]
    simp
  -- An escaped text has no bracket that opens, so the browser reads up to the closing tag.
  rw [read?, hunified, textBefore?_append hplain (hcloses _)]
  cases element with
  | editor =>
      have hmap : (Text.pageReferences.escapeChars text).map
          (fun c => if c = '\x00' then '\uFFFD' else c) = Text.pageReferences.escapeChars text := by
        refine (List.map_congr_left fun c hc => if_neg ?_).trans (List.map_id' _)
        rintro rfl
        exact hnull hc
      simp [hmap]
  | preformatted =>
      have hfilter : (Text.pageReferences.escapeChars text).filter (· != '\x00') =
          Text.pageReferences.escapeChars text := by
        refine List.filter_eq_self.mpr fun c hc => bne_iff_ne.mpr ?_
        rintro rfl
        exact hnull hc
      simp [hfilter, hplain]

/-! ### Texts in a page -/

/-- The characters of an element behind its opening tag. -/
def behindTag : Markup → List Char
  | .element tag _ children => Markup.writeAll children ++ '<' :: '/' :: (tag.toList ++ ['>'])
  | _ => []

/-- What it means that a browser displays a text in a piece of a page. -/
structure Displays (page : Markup) (element : TextElement) (piece : Markup) (text : List Char) : Prop where
  /-- The piece stands in the page. -/
  stands : piece.write <:+: page.write
  /-- It is an element that displays a text. -/
  tagged : ∃ attributes children, piece = .element element.tag attributes children
  /-- The text is read behind its opening tag, whatever comes after the piece. -/
  read : ∀ rest, element.read? (behindTag piece ++ rest) = some text

/-- What is displayed of a text that a piece of a page was written with. -/
structure Shows (page : Markup) (element : TextElement) (piece : Markup) (text : List Char) : Prop where
  /-- It is the text without a line feed that comes first, and nothing else. -/
  displays_iff : ∀ shown, Displays page element piece shown ↔ shown = afterLineFeed text
  /-- It is the text itself unless a line feed comes first. -/
  displays_self_iff : Displays page element piece text ↔ text.head? ≠ some '\n'

/-- The editors of a page: what the panes in the row of editors hold. -/
def editorsOf (page : Markup) : List Markup :=
  let rows := page.children.filter fun part => part.attribute? "class" == some "tpg-editors"
  (rows.flatMap Markup.children).flatMap Markup.children

/-- What stands in the fragment that the pane of the rendering holds. -/
def renderingOf (page : Markup) : List Markup :=
  let shown := (panes page).filter fun pane => pane.attribute? "data-pane" == some ViewMode.render.name
  (shown.flatMap Markup.children).flatMap Markup.children

theorem infix_writeAll {piece : Markup} {pieces : List Markup} (hpiece : piece ∈ pieces) :
    piece.write <:+: Markup.writeAll pieces := by
  induction pieces with
  | nil => cases hpiece
  | cons first rest ih =>
      rw [Markup.writeAll]
      rcases List.mem_cons.mp hpiece with rfl | hrest
      · exact (List.prefix_append _ _).isInfix
      · exact (ih hrest).trans (List.suffix_append _ _).isInfix

/-- What an element holds stands in whatever the element stands in. -/
theorem infix_of_mem_children {piece parent : Markup} {characters : List Char}
    (hpiece : piece ∈ parent.children) (hparent : parent.write <:+: characters) :
    piece.write <:+: characters := by
  cases parent with
  | text content => cases hpiece
  | verbatim content => cases hpiece
  | element tag attributes children =>
      refine (infix_writeAll hpiece).trans (List.IsInfix.trans ?_ hparent)
      exact ⟨'<' :: tag.toList ++ attributes.flatMap MarkupAttribute.write ++ ['>'],
        '<' :: '/' :: tag.toList ++ ['>'], by simp [Markup.write, Markup.children]⟩

theorem infix_of_mem_flatMap {piece : Markup} {parents : List Markup} {characters : List Char}
    (hpiece : piece ∈ parents.flatMap Markup.children)
    (hparents : ∀ parent ∈ parents, parent.write <:+: characters) : piece.write <:+: characters := by
  obtain ⟨parent, hparent, hmem⟩ := List.mem_flatMap.mp hpiece
  exact infix_of_mem_children hmem (hparents parent hparent)

/-- The editors of a page stand in it, -/
theorem infix_of_mem_editorsOf {page piece : Markup} (hpiece : piece ∈ editorsOf page) :
    piece.write <:+: page.write :=
  infix_of_mem_flatMap hpiece fun _ hpane => infix_of_mem_flatMap hpane fun _ hrow =>
    infix_of_mem_children (List.mem_of_mem_filter hrow) List.infix_rfl

/-- and so does the rendering. -/
theorem infix_of_mem_renderingOf {page piece : Markup} (hpiece : piece ∈ renderingOf page) :
    piece.write <:+: page.write :=
  infix_of_mem_flatMap hpiece fun _ hfragment => infix_of_mem_flatMap hfragment fun _ hpane =>
    infix_of_mem_flatMap (List.mem_of_mem_filter (List.mem_of_mem_filter hpane)) fun _ houtputs =>
      infix_of_mem_children (List.mem_of_mem_filter houtputs) List.infix_rfl

/-- A clean text in a page is shown but for a line feed that comes first. -/
theorem shows_of_infix {page : Markup} (element : TextElement) {attributes : List MarkupAttribute}
    {text : String} (hstands : (Markup.element element.tag attributes [.text text]).write <:+: page.write)
    (hclean : IsClean text.toList) :
    Shows page element (.element element.tag attributes [.text text]) text.toList := by
  have hread (rest : List Char) :
      element.read? (behindTag (.element element.tag attributes [.text text]) ++ rest) =
        some (afterLineFeed text.toList) := by
    rw [← element.read?_closedText hclean rest]
    simp [behindTag, closedText, Markup.writeAll, Markup.write]
  have hdisplays (shown : List Char) :
      Displays page element (.element element.tag attributes [.text text]) shown ↔
        shown = afterLineFeed text.toList := by
    constructor
    · intro hshown
      exact Option.some.inj ((hshown.read []).symm.trans (hread []))
    · rintro rfl
      exact ⟨hstands, ⟨attributes, _, rfl⟩, hread⟩
  refine ⟨hdisplays, ?_⟩
  rw [hdisplays, eq_comm, afterLineFeed_eq_self_iff]

/-! ### The editors -/

/-- The editors of a page are an element with the template, which is a text, and one with the context. -/
theorem editorsOf_document {session : Session} {uid : String} {page : Markup}
    (hpage : document session uid = .ok page) :
    ∃ source, session.state.draft.template = .string source ∧
      editorsOf page = [editor "tpg-editor" (partName "template" uid) source,
        editor "tpg-editor tpg-context-editor" (partName "context" uid) session.state.draft.context] := by
  obtain ⟨row, hrow, hpage⟩ := bind_eq_ok_iff.mp hpage
  obtain ⟨outputs, houtputs, hpage⟩ := bind_eq_ok_iff.mp hpage
  obtain ⟨script, hscript, hpage⟩ := bind_eq_ok_iff.mp hpage
  cases hpage
  have hoftype := class_of_stateScript (mapError_eq_ok_iff.mp hscript)
  have hclass := class_of_editors hrow
  obtain ⟨panes, -, houtputs⟩ := bind_eq_ok_iff.mp (mapError_eq_ok_iff.mp houtputs)
  cases houtputs
  simp only [editors] at hrow
  split at hrow
  · next source htemplate =>
      refine ⟨source, htemplate, ?_⟩
      cases hrow
      -- The other parts are of other classes, or of none.
      simp [editorsOf, Markup.children, header, hoftype, MarkupAttribute.classes, MarkupAttribute.id,
        MarkupAttribute.of]
  · cases hrow

/-! ### The rendering -/

theorem markup_rendered {session : Session} {rendering : String} {fragment : Markup}
    (hdispatch : session.dispatch (some .render) = .success (.rendered rendering))
    (hfragment : (session.dispatch (some .render)).markup .render = .ok fragment) :
    fragment.children = [preformatted rendering] := by
  rw [hdispatch] at hfragment
  cases hfragment
  rfl

/-- The rendering of a page of a fresh session is one text, set as it is. -/
theorem renderingOf_document {session : Session} (hfresh : session.Fresh) {uid : String} {page : Markup}
    (hpage : document session uid = .ok page) {rendering : String}
    (hdispatch : session.dispatch (some .render) = .success (.rendered rendering)) :
    renderingOf page = [preformatted rendering] := by
  obtain ⟨pane, others, hpane, hothers, hpanes⟩ :=
    List.forall₂_cons_left_iff.mp (forall₂_showsView_of_document hfresh hpage)
  have hnone : others.filter (fun pane => pane.attribute? "data-pane" == some ViewMode.render.name) = [] := by
    refine List.filter_eq_nil_iff.mpr fun other hother => ?_
    obtain ⟨view, hview, hshows⟩ := exists_of_forall₂_of_mem hothers hother
    have hdistinct : ∀ view ∈ [ViewMode.tokens, .ast, .instructions], view.name ≠ ViewMode.render.name := by
      decide
    rw [hshows.name, beq_iff_eq, Option.some.injEq]
    exact hdistinct view hview
  obtain ⟨fragment, hfragment, hchildren⟩ := hpane.content
  rw [renderingOf, hpanes, List.filter_cons_of_pos (by rw [hpane.name]; exact beq_self_eq_true _), hnone]
  simp [hchildren, markup_rendered hdispatch hfragment]

/-! ### Whole sessions -/

/-- Whatever has been done with a session, its page has two editors, for the template, which is then a text,
and for the context, and each shows its text.  If the template is rendered, the rendering is shown too. -/
theorem shows_texts_performAll {config : Config} {engine : Engine} {store : SettingsStore}
    {start : SessionStart} {session : Session}
    (hcreate : Session.create config engine store start = .ok session) (operations : List Session.Operation)
    {uid : String} {page : Markup} (hpage : document (session.performAll operations) uid = .ok page) :
    let reached := session.performAll operations
    ∃ source template context, reached.state.draft.template = .string source ∧
      editorsOf page = [template, context] ∧
      template.attribute? "id" = some (partName "template" uid) ∧
      context.attribute? "id" = some (partName "context" uid) ∧
      (IsClean source.toList → Shows page .editor template source.toList) ∧
      (IsClean reached.state.draft.context.toList →
        Shows page .editor context reached.state.draft.context.toList) ∧
      ∀ rendering, reached.dispatch (some .render) = .success (.rendered rendering) →
        ∃ shown, renderingOf page = [shown] ∧
          (IsClean rendering.toList → Shows page .preformatted shown rendering.toList) := by
  have hfresh := Session.fresh_performAll (Session.fresh_create hcreate) operations
  obtain ⟨source, htemplate, heditors⟩ := editorsOf_document hpage
  have hstands {piece : Markup} (hpiece : piece ∈ editorsOf page) : piece.write <:+: page.write :=
    infix_of_mem_editorsOf hpiece
  refine ⟨source, _, _, htemplate, heditors, rfl, rfl, shows_of_infix .editor (hstands ?_),
    shows_of_infix .editor (hstands ?_), fun rendering hdispatch => ?_⟩
  · rw [heditors]
    exact List.mem_cons_self
  · rw [heditors]
    exact List.mem_cons_of_mem _ List.mem_cons_self
  · have hrendering := renderingOf_document hfresh hpage hdispatch
    refine ⟨_, hrendering, shows_of_infix .preformatted (infix_of_mem_renderingOf ?_)⟩
    rw [hrendering]
    exact List.mem_cons_self

/-- An engine that gives every template back as its rendering, and refuses to give a tree. -/
def echoEngine : Engine where
  render _ source _ :=
    match source with
    | .string text => ⟨.ok text, []⟩
    | _ => ⟨.error (.reported "no text"), []⟩
  tokens _ := ⟨.ok [], []⟩
  tree _ := ⟨.error (.reported "no tree"), []⟩
  programs _ := ⟨.ok [], []⟩

/-- Operations that put a text into the editor of the template. -/
def editsTo (source : String) : List Session.Operation :=
  [.edit (.context (.string "\x7b\x7d")), .edit (.template (.string source))]

/-- What becomes of a session over the engine, if its page can be written. -/
theorem exists_echoed (source : String)
    (hok : (Session.create (Config.standard (.ofText "/home")) echoEngine ⟨none, "s"⟩ {}).toOption.map
      (fun session => (document (session.performAll (editsTo source)) "0").isOk) = some true) :
    ∃ session page, Session.create (Config.standard (.ofText "/home")) echoEngine ⟨none, "s"⟩ {} =
        .ok session ∧
      document (session.performAll (editsTo source)) "0" = .ok page ∧
      (session.performAll (editsTo source)).state.draft.template = .string source ∧
      (session.performAll (editsTo source)).dispatch (some .render) = .success (.rendered source) := by
  cases hcreate : Session.create (Config.standard (.ofText "/home")) echoEngine ⟨none, "s"⟩ {} with
  | error fault =>
      rw [hcreate] at hok
      cases hok
  | ok session =>
      rw [hcreate] at hok
      obtain ⟨page, hpage⟩ := exists_of_isOk (Option.some.inj hok)
      have hengine : session.engine = echoEngine := by
        obtain ⟨layout, -, hrest⟩ := bind_eq_ok_iff.mp hcreate
        obtain ⟨state, -, hsession⟩ := bind_eq_ok_iff.mp hrest
        cases hsession
        rfl
      have hreached : (session.performAll (editsTo source)).engine = echoEngine := hengine
      have hdraft : (session.performAll (editsTo source)).state.draft =
          ⟨.string source, "\x7b\x7d", session.state.draft.renderMode⟩ := rfl
      have hcontext : parseContext "\x7b\x7d" = .ok (.object []) := rfl
      refine ⟨session, page, rfl, hpage, by rw [hdraft], ?_⟩
      rw [Session.dispatch, Dispatcher.dispatch, hreached, hdraft, Draft.derive, Option.getD_some, Draft.ask]
      simp only [hcontext]
      rfl

/-- A template of closing tags and references is shown as it is, and so is its rendering. -/
theorem shows_texts_closingTags : ∃ session page template context shown,
    Session.create (Config.standard (.ofText "/home")) echoEngine ⟨none, "s"⟩ {} = .ok session ∧
    document (session.performAll (editsTo "</textarea>&lt;</pre>\n")) "0" = .ok page ∧
    editorsOf page = [template, context] ∧
    Displays page .editor template "</textarea>&lt;</pre>\n".toList ∧
    renderingOf page = [shown] ∧ Displays page .preformatted shown "</textarea>&lt;</pre>\n".toList := by
  obtain ⟨session, page, hcreate, hpage, htemplate, hdispatch⟩ :=
    exists_echoed "</textarea>&lt;</pre>\n" (by decide +kernel)
  obtain ⟨source, template, context, hsource, heditors, -, -, hshows, -, hrendering⟩ :=
    shows_texts_performAll hcreate _ hpage
  cases htemplate.symm.trans hsource
  obtain ⟨shown, hshown, hrendered⟩ := hrendering _ hdispatch
  have hclean : IsClean "</textarea>&lt;</pre>\n".toList := by
    unfold IsClean
    decide
  exact ⟨session, page, template, context, shown, hcreate, hpage, heditors,
    (hshows hclean).displays_self_iff.mpr (by decide), hshown,
    (hrendered hclean).displays_self_iff.mpr (by decide)⟩

/-- Of a template that begins with an empty line the editor and the rendering show the second line only. -/
theorem loses_first_lineFeed : ∃ session page template context shown,
    Session.create (Config.standard (.ofText "/home")) echoEngine ⟨none, "s"⟩ {} = .ok session ∧
    document (session.performAll (editsTo "\nx")) "0" = .ok page ∧
    editorsOf page = [template, context] ∧ renderingOf page = [shown] ∧
    Displays page .editor template ['x'] ∧ ¬ Displays page .editor template "\nx".toList ∧
    Displays page .preformatted shown ['x'] ∧ ¬ Displays page .preformatted shown "\nx".toList := by
  obtain ⟨session, page, hcreate, hpage, htemplate, hdispatch⟩ :=
    exists_echoed "\nx" (by decide +kernel)
  have hclean : IsClean "\nx".toList := by
    unfold IsClean
    decide
  have hfresh := Session.fresh_performAll (Session.fresh_create hcreate) (editsTo "\nx")
  obtain ⟨source, hsource, heditors⟩ := editorsOf_document hpage
  cases htemplate.symm.trans hsource
  have hrendering := renderingOf_document hfresh hpage hdispatch
  have htemplate : editor "tpg-editor" (partName "template" "0") "\nx" ∈ editorsOf page := by
    rw [heditors]
    exact List.mem_cons_self
  have hshown : preformatted "\nx" ∈ renderingOf page := by
    rw [hrendering]
    exact List.mem_cons_self
  have hedited := shows_of_infix .editor (infix_of_mem_editorsOf htemplate) hclean
  have hrendered := shows_of_infix .preformatted (infix_of_mem_renderingOf hshown) hclean
  exact ⟨session, page, _, _, _, hcreate, hpage, heditors, hrendering,
    (hedited.displays_iff _).mpr rfl, hedited.displays_self_iff.not.mpr (by decide),
    (hrendered.displays_iff _).mpr rfl, hrendered.displays_self_iff.not.mpr (by decide)⟩

end TemplateWorkbench.Page
