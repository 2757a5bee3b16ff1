import TemplateWorkbench.Proofs.Json.Members
import TemplateWorkbench.Proofs.Session.Announcements

/-!
# Batches of changes

A batch of changes is applied member by member: each understood member is an edit, which derives the output
and tells the listeners before the next one is made.  What this leaves is told without the order.  If every
edit can be made and no listener breaks off, the session ends where it would if all named fields had been set
at once and the output derived once, so the half-applied states in between leave nothing behind.

A batch is not taken back when one of its edits cannot be made.  The edit that is refused, and everything
behind it, is as if it had not been there, and what stands before it stays applied.
-/

namespace TemplateWorkbench

open Json (NamesDistinct lookup_cons lookup_eq_none lookup_eq_of_perm)

/-! ### Fields set at once -/

section Named

variable {α : Type} {members others : List (String × Json)} {read : Json → Option α} {name : String}

/-- What the member of a name sets a field to; without one the field keeps what it holds. -/
def named (members : List (String × Json)) (name : String) (read : Json → Option α) (held : α) : α :=
  ((members.lookup name).bind read).getD held

theorem named_singleton (name other : String) (value : Json) (held : α) :
    named [(other, value)] name read held = if name = other then (read value).getD held else held := by
  by_cases hname : name = other <;> simp [named, lookup_cons, hname]

theorem named_eq_held (hname : name ∉ members.map Prod.fst) (held : α) :
    named members name read held = held := by
  rw [named, lookup_eq_none hname]
  rfl

/-- Where no other member has the name of the first one, the first one can be applied before the others. -/
theorem named_cons {first : String} (hfirst : first ∉ members.map Prod.fst) (value : Json) (held : α) :
    named ((first, value) :: members) name read held =
      named members name read (named [(first, value)] name read held) := by
  by_cases hname : name = first
  · subst hname
    rw [named_eq_held hfirst, named_singleton, if_pos rfl, named, lookup_cons]
    simp
  · rw [named_singleton, if_neg hname, named, named, lookup_cons, if_neg (by simpa using hname)]

theorem named_eq_of_perm (hperm : others.Perm members) (hdistinct : NamesDistinct members) (held : α) :
    named others name read held = named members name read held := by
  rw [named, named, lookup_eq_of_perm hperm.symm hdistinct]

end Named

namespace EditorState

/-- The state with all fields set at once that members name. -/
def withNamed (state : EditorState) (members : List (String × Json)) : EditorState where
  draft :=
    { template := named members "template" some state.draft.template
      context :=
        named members "template_context" (fun value => (contextText value).toOption) state.draft.context
      renderMode :=
        named members "render_mode" (fun value => (RenderMode.chosenBy value).toOption)
          state.draft.renderMode }
  view := named members "view_mode" (fun value => (ViewMode.chosenBy value).toOption) state.view

variable {state : EditorState} {members others : List (String × Json)}

theorem withNamed_cons {name : String} (hname : name ∉ members.map Prod.fst) (value : Json) :
    state.withNamed ((name, value) :: members) = (state.withNamed [(name, value)]).withNamed members := by
  simp only [withNamed, named_cons hname]

theorem withNamed_eq_of_perm (hperm : others.Perm members) (hdistinct : NamesDistinct members) :
    state.withNamed others = state.withNamed members := by
  simp only [withNamed, named_eq_of_perm hperm hdistinct]

/-- A change of another name sets no field. -/
theorem withNamed_unknown {name : String} {value : Json} (hunknown : Edit.ofMember? name value = none) :
    state.withNamed [(name, value)] = state := by
  have hname : name ∉ changeNames := Edit.not_mem_changeNames hunknown
  simp only [changeNames, List.mem_cons, List.not_mem_nil, or_false, not_or] at hname
  obtain ⟨htemplate, hcontext, hmode, hview⟩ := hname
  simp only [withNamed, named_singleton, if_neg (Ne.symm htemplate), if_neg (Ne.symm hcontext),
    if_neg (Ne.symm hmode), if_neg (Ne.symm hview)]

/-- A valid edit sets the field of its name. -/
theorem edit_eq_withNamed {name : String} {value : Json} {edit : Edit}
    (hmember : Edit.ofMember? name value = some edit) (hvalid : edit.IsValid) :
    state.edit edit = .ok (state.withNamed [(name, value)]) := by
  unfold Edit.ofMember? at hmember
  split at hmember
  · cases hmember
    rfl
  · cases hmember
    obtain ⟨text, htext⟩ := Results.exists_of_isOk hvalid
    rw [EditorState.edit, htext]
    simp [withNamed, named_singleton, htext, Except.toOption]
  · cases hmember
    obtain ⟨mode, rfl⟩ := hvalid
    rw [EditorState.edit, Session.chosenBy_renderMode]
    simp [withNamed, named_singleton, Session.chosenBy_renderMode, Except.toOption]
  · cases hmember
    obtain ⟨view, rfl⟩ := hvalid
    rw [EditorState.edit, Session.chosenBy_view]
    simp [withNamed, named_singleton, Session.chosenBy_view, Except.toOption]
  · cases hmember

/-- What no member names stays in the snapshot as it was. -/
theorem lookup_members_withNamed {name : String} (hname : name ∉ members.map Prod.fst) :
    (state.withNamed members).members.lookup name = state.members.lookup name := by
  have hfield {first : String} {value other : Json} {rest more : List (String × Json)}
      (hfirst : first ∉ members.map Prod.fst → value = other)
      (hrest : rest.lookup name = more.lookup name) :
      ((first, value) :: rest).lookup name = ((first, other) :: more).lookup name := by
    rw [lookup_cons, lookup_cons, hrest]
    split
    · next heq => rw [hfirst (eq_of_beq heq ▸ hname)]
    · rfl
  refine hfield (fun h => ?_) (hfield (fun h => ?_) (hfield (fun h => ?_) (hfield (fun h => ?_) rfl)))
  all_goals simp only [withNamed, named_eq_held h]

/-- Whether an edit can be made does not depend on the state. -/
theorem edit_eq_error {edit : Edit} {fault : EditFault} (hfault : state.edit edit = .error fault)
    (other : EditorState) : other.edit edit = .error fault := by
  cases edit with
  | template source => cases hfault
  | context value =>
      rw [EditorState.edit] at hfault ⊢
      cases hvalue : contextText value with
      | ok text => simp [hvalue] at hfault
      | error reason => simpa [hvalue] using hfault
  | renderMode choice =>
      rw [EditorState.edit] at hfault ⊢
      cases hchoice : RenderMode.chosenBy choice with
      | ok mode => simp [hchoice] at hfault
      | error reason => simpa [hchoice] using hfault
  | view choice =>
      rw [EditorState.edit] at hfault ⊢
      cases hchoice : ViewMode.chosenBy choice with
      | ok view => simp [hchoice] at hfault
      | error reason => simpa [hchoice] using hfault

end EditorState

namespace Session

variable {session : Session} {members others : List (String × Json)}

/-- An update has no fault but that of a listener that breaks off. -/
theorem exists_listener_of_update {state : EditorState} {fault : SessionFault}
    (hfault : (session.update state).fault = some fault) :
    ∃ listener ∈ session.listeners, ¬ IsQuiet listener ∧ fault = .listener listener.id := by
  have hannounce (told : Session) (listeners : List Listener)
      (hfault : (told.announce listeners).2 = some fault) :
      ∃ listener ∈ listeners, ¬ IsQuiet listener ∧ fault = .listener listener.id := by
    induction listeners with
    | nil => cases hfault
    | cons listener rest ih =>
        rw [announce] at hfault
        split at hfault
        · next hbreaks =>
            cases hfault
            refine ⟨listener, List.mem_cons_self, fun hquiet => ?_, rfl⟩
            rw [hquiet] at hbreaks
            cases hbreaks
        · obtain ⟨other, hmem, hother⟩ := ih hfault
          exact ⟨other, List.mem_cons_of_mem _ hmem, hother⟩
  exact hannounce _ _ hfault

/-! ### Valid batches -/

/-- A fresh session is at the stage of its own state. -/
theorem atStage_state (hfresh : session.Fresh) : session.atStage session.state = session := by
  have houtput : session.output = session.state.outcome session.engine := hfresh
  rw [atStage, ← houtput]

/-- Valid changes end where all named fields are set at once, unless a listener breaks off. -/
theorem editAll_ofMembers (hfresh : session.Fresh) (hdistinct : NamesDistinct members)
    (hvalid : ∀ edit ∈ Edit.ofMembers members, edit.IsValid) :
    ((session.editAll (Edit.ofMembers members)).fault = none ∧
        (session.editAll (Edit.ofMembers members)).session =
          session.atStage (session.state.withNamed members)) ∨
      ∃ listener ∈ session.listeners, ¬ IsQuiet listener ∧
        (session.editAll (Edit.ofMembers members)).fault = some (.listener listener.id) := by
  induction members generalizing session with
  | nil => exact .inl ⟨rfl, (atStage_state hfresh).symm⟩
  | cons member rest ih =>
      obtain ⟨name, value⟩ := member
      -- No other member has the name of the first one, so what it sets is not set again.
      obtain ⟨hname, hrest⟩ := List.nodup_cons.mp hdistinct
      rw [EditorState.withNamed_cons hname]
      cases hmember : Edit.ofMember? name value with
      | none =>
          rw [Edit.ofMembers_skip hmember] at hvalid ⊢
          rw [EditorState.withNamed_unknown hmember]
          exact ih hfresh hrest hvalid
      | some edit =>
          rw [Edit.ofMembers_take hmember] at hvalid ⊢
          obtain ⟨hfirst, hothers⟩ := List.forall_mem_cons.mp hvalid
          have hedit : session.edit edit = session.update (session.state.withNamed [(name, value)]) := by
            rw [Session.edit, EditorState.edit_eq_withNamed hmember hfirst]
          rw [editAll, hedit]
          cases hfault : (session.update (session.state.withNamed [(name, value)])).fault with
          | some fault =>
              obtain ⟨listener, hmem, hbreaks, rfl⟩ := exists_listener_of_update hfault
              exact .inr ⟨listener, hmem, hbreaks, hfault⟩
          | none => exact ih (fresh_update session _) hrest hothers

/-- A batch of valid changes, with one that is not understood. -/
def validBatch : List (String × Json) :=
  [("view_mode", .string "ast"), ("colour", .null), ("template", .string "B"),
    ("template_context", .object [])]

/-- The progress with the fault of an edit that cannot be made. -/
def Progress.stoppedBy (progress : Progress) (fault : EditFault) : Progress :=
  { progress with fault := some (.edit fault) }

/-- The batch stops at the edit of a member, which cannot be made in any state: it has done what the members
before do, and nothing else. -/
def StopsAtMember (session : Session) (members : List (String × Json)) (fault : EditFault) : Prop :=
  ∃ before name value after edit, members = before ++ (name, value) :: after ∧
    Edit.ofMember? name value = some edit ∧ (∀ state : EditorState, state.edit edit = .error fault) ∧
    (session.editAll (Edit.ofMembers before)).fault = none ∧
    session.editAll (Edit.ofMembers members) =
      (session.editAll (Edit.ofMembers before)).stoppedBy fault

section StopsAtMember

variable {name : String} {value : Json} {edit : Edit} {fault : EditFault}

/-- A fault that is the edit's own, and not a listener's, is the one with which the state refuses the edit. -/
theorem edit_eq_error_of_fault (hfault : (session.edit edit).fault = some (.edit fault)) :
    session.state.edit edit = .error fault := by
  cases hedit : session.state.edit edit with
  | error reason =>
      rw [edit_eq_of_error hedit] at hfault
      cases hfault
      rfl
  | ok next =>
      rw [Session.edit, hedit] at hfault
      obtain ⟨listener, -, -, hlistener⟩ := exists_listener_of_update hfault
      cases hlistener

/-- A batch stops at its first member if that is what cannot be made. -/
theorem stopsAtMember_first (hmember : Edit.ofMember? name value = some edit)
    (hedit : session.state.edit edit = .error fault) :
    session.StopsAtMember ((name, value) :: members) fault := by
  refine ⟨[], name, value, members, edit, rfl, hmember, EditorState.edit_eq_error hedit, rfl, ?_⟩
  rw [Edit.ofMembers_take hmember, editAll, edit_eq_of_error hedit]
  rfl

/-- A member that is not understood does not move the place where a batch stops. -/
theorem StopsAtMember.skip (hstops : session.StopsAtMember members fault)
    (hmember : Edit.ofMember? name value = none) :
    session.StopsAtMember ((name, value) :: members) fault := by
  obtain ⟨before, refused, choice, after, edit, rfl, hedit, herror, hnone, hsame⟩ := hstops
  refine ⟨(name, value) :: before, refused, choice, after, edit, rfl, hedit, herror, ?_, ?_⟩
  · rw [Edit.ofMembers_skip hmember, hnone]
  · rw [Edit.ofMembers_skip hmember, Edit.ofMembers_skip hmember, hsame]

/-- After an edit that is made, a batch stops where the rest of it does. -/
theorem StopsAtMember.take (hstops : (session.edit edit).session.StopsAtMember members fault)
    (hmember : Edit.ofMember? name value = some edit) (hmade : (session.edit edit).fault = none) :
    session.StopsAtMember ((name, value) :: members) fault := by
  obtain ⟨before, refused, choice, after, other, rfl, hother, herror, hnone, hsame⟩ := hstops
  have htake := Edit.ofMembers_take hmember
  refine ⟨(name, value) :: before, refused, choice, after, other, rfl, hother, herror, ?_, ?_⟩
  · rw [htake, editAll, hmade]
    exact hnone
  · rw [htake, htake, editAll, editAll, hmade]
    simp only [hsame, Progress.stoppedBy]

end StopsAtMember

/-- A batch with the fault of an edit stops at a member. -/
theorem stopsAtMember_of_fault {fault : EditFault}
    (hfault : (session.editAll (Edit.ofMembers members)).fault = some (.edit fault)) :
    session.StopsAtMember members fault := by
  induction members generalizing session with
  | nil => cases hfault
  | cons member rest ih =>
      obtain ⟨name, value⟩ := member
      cases hmember : Edit.ofMember? name value with
      | none =>
          rw [Edit.ofMembers_skip hmember] at hfault
          exact (ih hfault).skip hmember
      | some edit =>
          rw [Edit.ofMembers_take hmember, editAll] at hfault
          cases hmade : (session.edit edit).fault with
          | some stopped =>
              rw [hmade] at hfault
              exact stopsAtMember_first hmember (edit_eq_error_of_fault hfault)
          | none =>
              rw [hmade] at hfault
              exact (ih hfault).take hmember hmade

/-- A batch that is refused leaves no trace of the member that is refused and of those behind it: it has done
what the members before do, which no edit that is refused comes to, and the listeners have been told of those
alone.  If no member before is understood, the session is as it was and nobody has been told. -/
theorem applyChanges_refused {fault : EditFault}
    (hfault : (session.applyChanges (.object members)).fault = some (.edit fault)) :
    ∃ before name value after edit, members = before ++ (name, value) :: after ∧
      Edit.ofMember? name value = some edit ∧ (∀ state : EditorState, state.edit edit = .error fault) ∧
      (session.applyChanges (.object before)).fault = none ∧
      session.applyChanges (.object members) =
        (session.applyChanges (.object before)).stoppedBy fault ∧
      ((∀ member ∈ before, member.1 ∉ changeNames) →
        session.applyChanges (.object members) = { session, fault := some (.edit fault) }) := by
  obtain ⟨before, name, value, after, edit, hsplit, hedit, herror, hnone, hsame⟩ :=
    stopsAtMember_of_fault hfault
  refine ⟨before, name, value, after, edit, hsplit, hedit, herror, hnone, hsame, fun hunknown => ?_⟩
  have hskipped : Edit.ofMembers before = [] := by
    rw [Edit.ofMembers, List.filterMap_eq_nil_iff]
    rintro ⟨other, choice⟩ hmem
    have hother := mt (Edit.isSome_ofMember? other choice).mp (hunknown _ hmem)
    exact Option.not_isSome_iff_eq_none.mp hother
  rw [hskipped] at hsame
  exact hsame

/-- A batch whose second understood change is refused. -/
def refusedBatch : List (String × Json) :=
  [("colour", .null), ("template", .string "B"), ("render_mode", .string "nope"), ("template", .string "C")]

/-- How a message names a mode that there is not. -/
theorem unknown_nope :
    (⟨(Json.quoted? (.string "nope")).getD "", "RenderMode"⟩ : UnknownChoice) =
      ⟨"'nope'", "RenderMode"⟩ := by
  decide +kernel

/-- What the members before the refused one do is done, and what is behind it is not. -/
theorem applyChanges_refusedBatch : ∃ session before name value after edit,
    create plainConfig (templateEngine false) ⟨none, "s"⟩ (startWith "w") = .ok session ∧
      refusedBatch = before ++ (name, value) :: after ∧ Edit.ofMember? name value = some edit ∧
      (∀ state : EditorState, state.edit edit = .error (.unknown ⟨"'nope'", "RenderMode"⟩)) ∧
      (({ session with listeners := twoListeners } : Session).applyChanges (.object before)).fault = none ∧
      ({ session with listeners := twoListeners } : Session).applyChanges (.object refusedBatch) =
        (({ session with listeners := twoListeners } : Session).applyChanges (.object before)).stoppedBy
          (.unknown ⟨"'nope'", "RenderMode"⟩) := by
  obtain ⟨session, hcreate, -, -, -⟩ := exists_created "w"
  have hfault : (({ session with listeners := twoListeners } : Session).applyChanges
      (.object refusedBatch)).fault = some (.edit (.unknown ⟨"'nope'", "RenderMode"⟩)) :=
    congrArg (fun choice => some (SessionFault.edit (.unknown choice))) unknown_nope
  obtain ⟨before, name, value, after, edit, hsplit, hedit, herror, hnone, hsame, -⟩ :=
    applyChanges_refused hfault
  exact ⟨session, before, name, value, after, edit, hcreate, hsplit, hedit, herror, hnone, hsame⟩

/-- A batch that is refused may have changed the template before, and the listeners have been told. -/
theorem refused_after_template : ∃ session progress,
    create plainConfig (templateEngine false) ⟨none, "s"⟩ (startWith "w") = .ok session ∧
      ({ session with listeners := twoListeners } : Session).applyChanges
        (.object [("template", .string "B"), ("render_mode", .string "nope")]) = progress ∧
      progress.fault = some (.edit (.unknown ⟨"'nope'", "RenderMode"⟩)) ∧
      session.state.draft.template = .string "\x7b\x7b w \x7d\x7d" ∧
      progress.session.state.draft.template = .string "B" ∧
      progress.announced.map (·.listener) = ["a", "b"] := by
  obtain ⟨session, hcreate, -, -, htemplate⟩ := exists_created "w"
  exact ⟨session, _, hcreate, rfl,
    congrArg (fun choice => some (SessionFault.edit (.unknown choice))) unknown_nope, htemplate, rfl, rfl⟩

end Session

end TemplateWorkbench
