import TemplateWorkbench.Proofs.Page.LineTexts
import TemplateWorkbench.Proofs.Page.Writing

/-!
# The state embedded in a page

The state of a session stands in a script element of its page: a line that assigns the value of the state,
written with its closing tags guarded, and a semicolon.

```text
<script>   var tpgState_0 = {"template": ..., "template_context": ...};   </script>
```

Where does this element end?  Never before its closing tag, whatever stands in the state, because every
closing tag in it is guarded.  It ends at its closing tag exactly if the texts of the state, with a quote
after each, open no script after a comment.  The guard leaves `<!--` and `<script` as they are: over the
template `<!--<script>` the element does not end where it is closed.
-/

namespace TemplateWorkbench

open Results
open ScriptElement

/-! ### The script -/

namespace Page

/-- What stands in front of the line of the state. -/
def scriptFront (uid : String) : String := s!"var tpgState_{uid} = "

/-- What the script element holds: the line of the state with its closing tags guarded. -/
def scriptBody (uid line : String) : List Char :=
  (scriptFront uid).toList ++ guarded line.toList ++ [';']

theorem all_isSkipped_scriptFront {uid : String} (huid : uid.toList.all Char.isAlphanum = true) :
    (scriptFront uid).toList.all isSkipped = true := by
  have hname : uid.toList.all isSkipped = true := by
    refine List.all_eq_true.mpr fun c hc => ?_
    simp only [isSkipped, Bool.and_eq_true, bne_iff_ne]
    constructor <;>
    · rintro rfl
      exact absurd (List.all_eq_true.mp huid _ hc) (by decide)
  have hbefore : "var tpgState_".toList.all isSkipped = true := by decide
  have hbehind : " = ".toList.all isSkipped = true := by decide
  have hsplit : (scriptFront uid).toList = "var tpgState_".toList ++ uid.toList ++ " = ".toList := by
    rw [← String.toList_append, ← String.toList_append]
    rfl
  rw [hsplit, List.all_append, List.all_append, hbefore, hname, hbehind]
  rfl

theorem write_stateScript {session : Session} {uid line : String} {script : Markup}
    (hline : Json.line (embeddedState session) = .ok line) (hscript : stateScript session uid = .ok script) :
    script.write = "<script>".toList ++ scriptBody uid line ++ "</script>".toList := by
  rw [stateScript, hline] at hscript
  cases hscript
  have hcontent : (scriptFront uid ++ guardClosing line ++ ";").toList = scriptBody uid line := by
    rw [String.toList_append, String.toList_append, toList_guardClosing]
    rfl
  have hopening : "<script>".toList = '<' :: "script".toList ++ ['>'] := rfl
  have hclosing : "</script>".toList = '<' :: '/' :: "script".toList ++ ['>'] := rfl
  rw [← hcontent, hopening, hclosing]
  simp only [Markup.write, Markup.writeAll, List.flatMap_nil, List.append_nil, List.append_assoc,
    List.cons_append, List.nil_append]
  rfl

/-- Read in a page, the state is all that its element holds unless the texts in it, one after another, leave
a script open. -/
theorem content?_scriptBody {session : Session} {uid line : String}
    (huid : uid.toList.all Char.isAlphanum = true)
    (hline : Json.line (embeddedState session) = .ok line) (arrows : Bool) (rest : List Char) :
    (∀ content, content? arrows .plain (scriptBody uid line ++ "</script>".toList ++ rest) = some content →
      scriptBody uid line <+: content) ∧
    (content? arrows .plain (scriptBody uid line ++ "</script>".toList ++ rest) =
        some (scriptBody uid line) ↔
      Json.stateAfterTexts arrows .plain (embeddedState session).texts ≠ .nested) := by
  have hfront := all_isSkipped_scriptFront huid
  obtain ⟨written, hwritten, rfl⟩ := map_eq_ok_iff.mp hline
  have hopen : ¬ Has isTagEnd .closing
      ((scriptFront uid).toList ++ guarded (String.ofList written).toList) :=
    (has_skip hfront).not.mpr (not_has_closing_guarded isTagEnd _)
  have hstate : stateAfter isTagEnd arrows .plain
      ((scriptFront uid).toList ++ guarded (String.ofList written).toList) =
        Json.stateAfterTexts arrows .plain (embeddedState session).texts := by
    rw [stateAfter_skip hfront, stateAfter_guarded, String.toList_ofList, Json.stateAfter_writeChars hwritten]
  have hclosed := content?_closed arrows (Json.isSeparator_sign (c := ';') (by decide)) hopen rest
  rw [hstate] at hclosed
  rw [scriptBody, List.append_assoc _ "</script>".toList rest, List.append_assoc _ [';'] _,
    List.singleton_append]
  exact hclosed

/-- Whatever stands in the state, its element does not end before its closing tag, and it ends there unless
the texts of the state open a script after a comment. -/
theorem stateScript_ends {session : Session} {uid : String} (huid : uid.toList.all Char.isAlphanum = true)
    {script : Markup} (hscript : stateScript session uid = .ok script) (arrows : Bool) (rest : List Char) :
    ∃ body, script.write = "<script>".toList ++ body ++ "</script>".toList ∧
      (∀ content, content? arrows .plain (body ++ "</script>".toList ++ rest) = some content →
        body <+: content) ∧
      (content? arrows .plain (body ++ "</script>".toList ++ rest) = some body ↔
        ¬ OpensScript isTextEnd arrows (Json.quotedTexts (embeddedState session).texts)) := by
  obtain ⟨line, hline, -⟩ := bind_eq_ok_iff.mp hscript
  obtain ⟨hearliest, hends⟩ := content?_scriptBody huid hline arrows rest
  refine ⟨scriptBody uid line, write_stateScript hline hscript, hearliest, ?_⟩
  rw [hends, ne_eq, Json.stateAfterTexts_eq_nested_iff]

/-! ### Two sessions -/

/-- What a session over a template is started with. -/
def startOver (source : String) : SessionStart :=
  { template := some (.string source), context := .string "\x7b\x7d", view := "tokens" }

/-- The texts in the state of such a session. -/
def textsOver (source : String) : List String :=
  ["template", source, "template_context", "\x7b\x7d", "render_mode", "html", "view_mode", "tokens",
    "namespace", "s", "context_width", "output_height", "min_size", "width_key", "contextWidth",
    "height_key", "outputHeight", "total_height"]

/-- Such a session starts, and its state can be written. -/
theorem exists_startedOver (source : String) : ∃ session script,
    Session.create Session.plainConfig (templateEngine false) ⟨none, "s"⟩ (startOver source) =
        .ok session ∧
      stateScript session "0" = .ok script ∧ (embeddedState session).texts = textsOver source := by
  -- Of the layout that comes with a plain configuration, only what the state shows is worked out.
  have hlayouts : (Session.layoutOf Session.plainConfig ⟨none, "s"⟩).toOption.map (fun layout =>
      ((layout.context.size.toJson.integers ++ layout.output.size.toJson.integers ++
        [layout.context.minSize]).all Number.isShort,
        layout.context.size.toJson.texts ++ layout.output.size.toJson.texts,
        (layout.store.map (·.space)).getD "", layout.context.key, layout.output.key)) =
      some (true, [], "s", "contextWidth", "outputHeight") := by
    decide +kernel
  cases hlayout : Session.layoutOf Session.plainConfig ⟨none, "s"⟩ with
  | error fault =>
      rw [hlayout] at hlayouts
      cases hlayouts
  | ok layout =>
      rw [hlayout] at hlayouts
      obtain ⟨hsizes, htexts, hspace, hwidth, hheight⟩ :
          _ = true ∧ _ = [] ∧ _ = "s" ∧ _ = "contextWidth" ∧ _ = "outputHeight" := by
        simpa only [Except.toOption, Option.map_some, Option.some.injEq, Prod.mk.injEq] using hlayouts
      obtain ⟨hcontext, houtput⟩ := List.append_eq_nil_iff.mp htexts
      let draft : Draft := ⟨.string source, "\x7b\x7d", .html⟩
      let session : Session := ⟨Session.plainConfig, templateEngine false, layout, ⟨draft, .tokens⟩,
        EditorState.outcome ⟨draft, .tokens⟩ (templateEngine false), []⟩
      have hcreate : Session.create Session.plainConfig (templateEngine false) ⟨none, "s"⟩
          (startOver source) = .ok session := by
        rw [Session.create, hlayout]
        rfl
      have hsound := Session.sound_create hcreate (by simp [startOver]) hsizes
      obtain ⟨script, hscript⟩ := exists_of_isOk (hsound.isOk_stateScript "0")
      refine ⟨session, script, hcreate, hscript, ?_⟩
      simp [embeddedState, EditorState.members, Json.texts, Json.memberTexts, session, draft, hcontext,
        houtput, hspace, hwidth, hheight, textsOver, RenderMode.name, ViewMode.name]

/-- A closing tag in the template does not end the element, and neither does it keep it open. -/
theorem stateScript_ends_closingTag : ∃ session script body,
    Session.create Session.plainConfig (templateEngine false) ⟨none, "s"⟩ (startOver "</script><!--") =
      .ok session ∧ stateScript session "0" = .ok script ∧
    script.write = "<script>".toList ++ body ++ "</script>".toList ∧
    content? true .plain (body ++ "</script>".toList ++ "<p>".toList) = some body := by
  obtain ⟨session, script, hcreate, hscript, htexts⟩ := exists_startedOver "</script><!--"
  obtain ⟨body, hbody, -, hends⟩ := stateScript_ends (by decide) hscript true "<p>".toList
  refine ⟨session, script, body, hcreate, hscript, hbody, hends.mpr ?_⟩
  rw [htexts, ← Json.stateAfterTexts_eq_nested_iff]
  decide

/-- A script that is opened in the template after a comment keeps the element open. -/
theorem stateScript_runsOn : ∃ session script body,
    Session.create Session.plainConfig (templateEngine false) ⟨none, "s"⟩ (startOver "<!--<script>") =
      .ok session ∧ stateScript session "0" = .ok script ∧
    script.write = "<script>".toList ++ body ++ "</script>".toList ∧
    ∀ arrows rest, content? arrows .plain (body ++ "</script>".toList ++ rest) ≠ some body := by
  obtain ⟨session, script, hcreate, hscript, htexts⟩ := exists_startedOver "<!--<script>"
  obtain ⟨line, hline, -⟩ := bind_eq_ok_iff.mp hscript
  refine ⟨session, script, scriptBody "0" line, hcreate, hscript, write_stateScript hline hscript,
    fun arrows rest => ?_⟩
  have huid : "0".toList.all Char.isAlphanum = true := by decide
  have hends := (content?_scriptBody huid hline arrows rest).2
  rw [htexts] at hends
  refine hends.not.mpr (not_not_intro ?_)
  cases arrows <;> decide

end Page

end TemplateWorkbench
