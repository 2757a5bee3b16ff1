import TemplateWorkbench.Proofs.Page.Writing

/-!
# What listeners are told

An operation leads the editor state through stages: an edit through one, a batch of changes through one for
each change that it comes to, and to run a view or to show the page through none.  An edit that cannot be
made leads nowhere and ends its batch.  The stages are told by the editor state and the operation alone;
the output and the listeners take no part.

A listener that never breaks off is told of every stage when it has been reached, and of nothing else.  So
what it has been told after any operations are the outputs of all the stages, in order.
-/

namespace TemplateWorkbench

/-! ### Stages -/

/-- The names of the changes that are understood. -/
def changeNames : List String := ["template", "template_context", "render_mode", "view_mode"]

/-- The states that a batch of changes leads through, up to the first change that cannot be made; a change
of another name leads nowhere. -/
def EditorState.stages (state : EditorState) : List (String × Json) → List EditorState
  | [] => []
  | (name, value) :: rest =>
    match Edit.ofMember? name value with
    | none => state.stages rest
    | some edit =>
      match state.edit edit with
      | .ok next => next :: next.stages rest
      | .error _ => []

theorem Edit.isSome_ofMember? (name : String) (value : Json) :
    (ofMember? name value).isSome = true ↔ name ∈ changeNames := by
  unfold ofMember?
  split <;> simp_all [changeNames]

/-- A member that is not understood has another name. -/
theorem Edit.not_mem_changeNames {name : String} {value : Json} (hmember : ofMember? name value = none) :
    name ∉ changeNames := by
  rw [← isSome_ofMember? name value, hmember]
  exact Bool.false_ne_true

/-- A member that is not understood is no edit of its batch. -/
theorem Edit.ofMembers_skip {name : String} {value : Json} (hmember : ofMember? name value = none)
    (rest : List (String × Json)) : ofMembers ((name, value) :: rest) = ofMembers rest :=
  List.filterMap_cons_none hmember

/-- A member that is understood is the next edit of its batch. -/
theorem Edit.ofMembers_take {name : String} {value : Json} {edit : Edit}
    (hmember : ofMember? name value = some edit) (rest : List (String × Json)) :
    ofMembers ((name, value) :: rest) = edit :: ofMembers rest :=
  List.filterMap_cons_some hmember

namespace EditorState

variable {state next : EditorState} {name : String} {value : Json} {edit : Edit}

theorem stages_skip (hmember : Edit.ofMember? name value = none) (rest : List (String × Json)) :
    state.stages ((name, value) :: rest) = state.stages rest := by
  rw [stages, hmember]

theorem stages_take (hmember : Edit.ofMember? name value = some edit) (hedit : state.edit edit = .ok next)
    (rest : List (String × Json)) : state.stages ((name, value) :: rest) = next :: next.stages rest := by
  simp only [stages, hmember, hedit]

theorem stages_refused {fault : EditFault} (hmember : Edit.ofMember? name value = some edit)
    (hedit : state.edit edit = .error fault) (rest : List (String × Json)) :
    state.stages ((name, value) :: rest) = [] := by
  simp only [stages, hmember, hedit]

end EditorState

namespace Session

/-- The states that an operation leads through. -/
def Operation.stages (state : EditorState) : Operation → List EditorState
  | .edit change => (state.edit change).toOption.toList
  | .setHtml html =>
    [{ state with draft := { state.draft with renderMode := if html then .html else .text } }]
  | .applyChanges (.object members) => state.stages members
  | .reset => [state.reset]
  | .applyChanges _ | .runView _ | .display _ | .listen _ | .attend _ => []

/-- The states that operations lead through, each beginning where the one before has ended. -/
def stagesAll (state : EditorState) : List Operation → List EditorState
  | [] => []
  | operation :: rest =>
    operation.stages state ++ stagesAll ((operation.stages state).getLastD state) rest

/-! ### Announcements -/

/-- Where an operation leads, and what the listeners are told on the way. -/
def progress (session : Session) : Operation → Progress
  | .edit edit => session.edit edit
  | .setHtml html => session.setHtml html
  | .applyChanges changes => session.applyChanges changes
  | .reset => session.reset
  | operation => { session := session.perform operation }

/-- What the listeners are told over operations one after another. -/
def announcements (session : Session) : List Operation → List Announcement
  | [] => []
  | operation :: rest =>
    (session.progress operation).announced ++
      (session.perform operation).announcements rest

/-- The outcomes that a listener has been told. -/
def received (id : String) (announced : List Announcement) : List (Outcome Payload) :=
  (announced.filter (·.listener == id)).map (·.outcome)

/-- An operation that leaves the listeners as they are. -/
def Operation.KeepsListeners : Operation → Prop
  | .listen _ | .attend _ => False
  | .edit _ | .setHtml _ | .applyChanges _ | .reset | .runView _ | .display _ => True

/-- The session with another editor state and with the output for it. -/
def atStage (session : Session) (state : EditorState) : Session :=
  { session with state, output := state.outcome session.engine }

/-- What the listeners of a session are told of a stage. -/
def told (session : Session) (state : EditorState) : List Announcement :=
  session.listeners.map (session.atStage state).announcement

theorem session_progress (session : Session) (operation : Operation) :
    (session.progress operation).session = session.perform operation := by
  cases operation <;> rfl

/-! ### One operation -/

variable {session : Session}

/-- Listeners that never break off are all told. -/
theorem announce_of_quiet {listeners : List Listener}
    (hquiet : ∀ listener ∈ listeners, IsQuiet listener) :
    session.announce listeners = (listeners.map session.announcement, none) := by
  induction listeners with
  | nil => rfl
  | cons listener rest ih =>
      have hrest := ih fun other hother => hquiet other (List.mem_cons_of_mem listener hother)
      rw [announce, if_neg (by simp [hquiet listener List.mem_cons_self session.output]), hrest]
      rfl

/-- Where a session has been led through stages: it is at the last one, and the listeners have been told of
all of them. -/
structure Follows (session : Session) (stages : List EditorState) (progress : Progress) : Prop where
  leads : progress.session = stages.getLast?.elim session session.atStage
  tells : progress.announced = stages.flatMap session.told

/-- A session that is at one of its stages tells as it would have told before, and has the same stages
ahead. -/
theorem told_elim (session : Session) (stage : Option EditorState) :
    (stage.elim session session.atStage).told = session.told ∧
      (stage.elim session session.atStage).atStage = session.atStage ∧
      (stage.elim session session.atStage).listeners = session.listeners ∧
      (stage.elim session session.atStage).state = stage.getD session.state := by
  cases stage <;> exact ⟨rfl, rfl, rfl, rfl⟩

/-- What follows some stages and then others follows both. -/
theorem Follows.append {first second : List EditorState} {before after : Progress}
    (hbefore : session.Follows first before) (hafter : before.session.Follows second after) :
    session.Follows (first ++ second)
      { after with announced := before.announced ++ after.announced } := by
  obtain ⟨htold, hat, -, -⟩ := told_elim session first.getLast?
  rw [← hbefore.leads] at htold hat
  constructor
  · rw [List.getLast?_append]
    refine hafter.leads.trans ?_
    rw [hat]
    cases second.getLast? with
    | none => exact hbefore.leads
    | some last => rfl
  · change before.announced ++ after.announced = _
    rw [hbefore.tells, hafter.tells, htold, List.flatMap_append]

/-- An update is a stage, and quiet listeners do not stop it. -/
theorem follows_update (hquiet : ∀ listener ∈ session.listeners, IsQuiet listener)
    (state : EditorState) :
    session.Follows [state] (session.update state) ∧ (session.update state).fault = none := by
  have hannounce : (session.atStage state).announce session.listeners = (session.told state, none) :=
    announce_of_quiet hquiet
  exact ⟨⟨rfl, (congrArg Prod.fst hannounce).trans (List.append_nil _).symm⟩,
    congrArg Prod.snd hannounce⟩

/-- An edit that cannot be made has no other effect than its fault. -/
theorem edit_eq_of_error {edit : Edit} {fault : EditFault} (hedit : session.state.edit edit = .error fault) :
    session.edit edit = { session, fault := some (.edit fault) } := by
  rw [Session.edit, hedit]

/-- An edit is a stage if it can be made, and otherwise has a fault. -/
theorem follows_edit (hquiet : ∀ listener ∈ session.listeners, IsQuiet listener) (edit : Edit) :
    session.Follows (session.state.edit edit).toOption.toList (session.edit edit) ∧
      (session.edit edit).fault = (Results.error? (session.state.edit edit)).map .edit := by
  rw [Session.edit]
  cases session.state.edit edit with
  | ok state => exact follows_update hquiet state
  | error fault => exact ⟨⟨rfl, rfl⟩, rfl⟩

/-- How far a batch of changes comes: to all of them, or to one that cannot be made.  It leads through one
stage for each of them that is understood. -/
structure Reaches (session : Session) (members : List (String × Json)) (progress : Progress) : Prop where
  follows : session.Follows (session.state.stages members) progress
  reached : ∃ reached rest, members = reached ++ rest ∧
    (session.state.stages members).length = reached.countP (·.1 ∈ changeNames) ∧
    (rest = [] ∧ progress.fault = none ∨ ∃ name value others fault,
      rest = (name, value) :: others ∧ name ∈ changeNames ∧ progress.fault = some (.edit fault))

section Reaches

variable {members : List (String × Json)} {progress : Progress} {name : String} {value : Json} {edit : Edit}

/-- A member that is not understood does not stop a batch, and leads through no stage. -/
theorem Reaches.skip (hreaches : session.Reaches members progress)
    (hmember : Edit.ofMember? name value = none) :
    session.Reaches ((name, value) :: members) progress := by
  obtain ⟨hfollows, reached, others, rfl, hcount, hend⟩ := hreaches
  have hunknown : name ∉ changeNames := Edit.not_mem_changeNames hmember
  rw [← EditorState.stages_skip hmember] at hfollows hcount
  refine ⟨hfollows, (name, value) :: reached, others, rfl, ?_, hend⟩
  rw [hcount, List.countP_cons_of_neg (by simpa using hunknown)]

/-- A batch comes to its first member and no further if that is what cannot be made. -/
theorem reaches_refused {fault : EditFault} (hmember : Edit.ofMember? name value = some edit)
    (hedit : session.state.edit edit = .error fault) :
    session.Reaches ((name, value) :: members) { session, fault := some (.edit fault) } := by
  have hknown : name ∈ changeNames := (Edit.isSome_ofMember? name value).mp (hmember ▸ rfl)
  have hstages := EditorState.stages_refused hmember hedit members
  refine ⟨?_, [], _, rfl, ?_, .inr ⟨name, value, members, fault, rfl, hknown, rfl⟩⟩
  · rw [hstages]
    exact ⟨rfl, rfl⟩
  · rw [hstages]
    rfl

/-- After an edit that is made, a batch comes as far as the rest of it does, with one more stage. -/
theorem Reaches.take {next : EditorState} {first : Progress} (hfirst : session.Follows [next] first)
    (hreaches : first.session.Reaches members progress)
    (hmember : Edit.ofMember? name value = some edit) (hedit : session.state.edit edit = .ok next) :
    session.Reaches ((name, value) :: members)
      { progress with announced := first.announced ++ progress.announced } := by
  obtain ⟨hfollows, reached, others, rfl, hcount, hend⟩ := hreaches
  have hknown : name ∈ changeNames := (Edit.isSome_ofMember? name value).mp (hmember ▸ rfl)
  have hstages := EditorState.stages_take hmember hedit (reached ++ others)
  have hstate : first.session.state = next := by
    rw [hfirst.leads]
    rfl
  rw [hstate] at hfollows hcount
  refine ⟨?_, (name, value) :: reached, others, rfl, ?_, hend⟩
  · rw [hstages]
    exact hfirst.append hfollows
  · rw [hstages, List.length_cons, hcount, List.countP_cons_of_pos (by simpa using hknown)]

/-- If no listener breaks off, a batch is stopped by an edit that cannot be made and by nothing else. -/
theorem reaches_editAll (hquiet : ∀ listener ∈ session.listeners, IsQuiet listener)
    (members : List (String × Json)) :
    session.Reaches members (session.editAll (Edit.ofMembers members)) := by
  induction members generalizing session with
  | nil => exact ⟨⟨rfl, rfl⟩, [], [], rfl, rfl, .inl ⟨rfl, rfl⟩⟩
  | cons member rest ih =>
      obtain ⟨name, value⟩ := member
      cases hmember : Edit.ofMember? name value with
      | none =>
          rw [Edit.ofMembers_skip hmember]
          exact (ih hquiet).skip hmember
      | some edit =>
          rw [Edit.ofMembers_take hmember, editAll]
          cases hedit : session.state.edit edit with
          | error fault =>
              rw [edit_eq_of_error hedit]
              exact reaches_refused hmember hedit
          | ok next =>
              obtain ⟨hfirst, hfault⟩ := follows_edit hquiet edit
              rw [hedit] at hfirst hfault
              simp only [hfault, Results.error?, Option.map_none]
              have hnext : ∀ listener ∈ (session.edit edit).session.listeners, IsQuiet listener := by
                rw [hfirst.leads]
                exact hquiet
              exact Reaches.take hfirst (ih hnext) hmember hedit

end Reaches

/-- An operation leads through its stages, and quiet listeners are told of each. -/
theorem follows_progress (hquiet : ∀ listener ∈ session.listeners, IsQuiet listener)
    {operation : Operation} (hkeeps : operation.KeepsListeners) :
    session.Follows (operation.stages session.state) (session.progress operation) := by
  cases operation with
  | edit edit => exact (follows_edit hquiet edit).1
  | setHtml html => exact (follows_update hquiet _).1
  | reset => exact (follows_update hquiet _).1
  | runView view => exact ⟨rfl, rfl⟩
  | display uid => exact ⟨rfl, rfl⟩
  | listen listener => exact hkeeps.elim
  | attend listeners => exact hkeeps.elim
  | applyChanges changes =>
      cases changes with
      | object members => exact (reaches_editAll hquiet members).follows
      | null | bool _ | int _ | double _ | string _ | list _ => exact ⟨rfl, rfl⟩

/-! ### Many operations -/

/-- Operations lead through all their stages, and quiet listeners are told of each. -/
theorem follows_all (hquiet : ∀ listener ∈ session.listeners, IsQuiet listener)
    {operations : List Operation} (hkeeps : ∀ operation ∈ operations, operation.KeepsListeners) :
    session.Follows (stagesAll session.state operations)
      { session := session.performAll operations, announced := session.announcements operations } := by
  induction operations generalizing session with
  | nil => exact ⟨rfl, rfl⟩
  | cons operation rest ih =>
      obtain ⟨hkeepsFirst, hkeepsRest⟩ := List.forall_mem_cons.mp hkeeps
      have hfirst := follows_progress hquiet hkeepsFirst
      obtain ⟨-, -, hlisteners, hstate⟩ := told_elim session (operation.stages session.state).getLast?
      rw [← hfirst.leads] at hlisteners hstate
      have hnext : ∀ listener ∈ (session.progress operation).session.listeners, IsQuiet listener := by
        rw [hlisteners]
        exact hquiet
      have hrest := ih hnext hkeepsRest
      rw [hstate, ← List.getLastD_eq_getLast?] at hrest
      have hall := hfirst.append hrest
      rw [session_progress] at hall
      exact hall

/-- A listener whose name no other one has is told of a stage once. -/
theorem received_told {listener : Listener} (hmem : listener ∈ session.listeners)
    (hnames : (session.listeners.map Listener.id).Nodup) (state : EditorState) :
    received listener.id (session.told state) = [state.outcome session.engine] := by
  obtain ⟨first, rest, hsplit⟩ := List.append_of_mem hmem
  rw [hsplit, List.map_append, List.map_cons, List.nodup_middle, List.nodup_cons, List.mem_append,
    not_or] at hnames
  obtain ⟨⟨hfirst, hrest⟩, -⟩ := hnames
  have hothers (others : List Listener) (hother : listener.id ∉ others.map Listener.id) :
      received listener.id (others.map (session.atStage state).announcement) = [] := by
    rw [received, List.map_eq_nil_iff, List.filter_eq_nil_iff]
    intro announcement hannouncement hsame
    obtain ⟨one, hone, rfl⟩ := List.mem_map.mp hannouncement
    exact hother (List.mem_map.mpr ⟨one, hone, eq_of_beq hsame⟩)
  have happend (before after : List Announcement) :
      received listener.id (before ++ after) = received listener.id before ++ received listener.id after := by
    rw [received, List.filter_append, List.map_append]
    rfl
  rw [told, hsplit, List.map_append, List.map_cons, happend, hothers first hfirst, List.nil_append,
    ← List.singleton_append, happend, hothers rest hrest, List.append_nil]
  simp only [received, announcement, atStage, List.filter_cons, beq_self_eq_true, if_true, List.filter_nil,
    List.map_cons, List.map_nil]

/-- Listeners that never break off are told of every stage of every operation, in order, and of nothing
else; what a session shows at the end is the output of the last stage.  A listener whose name no other one
has is told exactly the outputs of the stages.  A batch of changes leads through one stage for each change
that is understood, in its order, up to the first one that cannot be made. -/
theorem received_eq_outputs (hquiet : ∀ listener ∈ session.listeners, IsQuiet listener)
    {operations : List Operation} (hkeeps : ∀ operation ∈ operations, operation.KeepsListeners) :
    session.announcements operations = (stagesAll session.state operations).flatMap session.told ∧
      ((session.listeners.map Listener.id).Nodup → ∀ listener ∈ session.listeners,
        received listener.id (session.announcements operations) =
          (stagesAll session.state operations).map (·.outcome session.engine)) ∧
      (session.performAll operations).output =
        ((stagesAll session.state operations).map (·.outcome session.engine)).getLastD session.output ∧
      (∀ edit, (session.edit edit).fault ≠ none → (Operation.edit edit).stages session.state = []) ∧
      ∀ members, ∃ reached rest, members = reached ++ rest ∧
        (session.state.stages members).length = reached.countP (·.1 ∈ changeNames) ∧
        (rest = [] ∧ (session.applyChanges (.object members)).fault = none ∨
          ∃ name value others fault, rest = (name, value) :: others ∧ name ∈ changeNames ∧
            (session.applyChanges (.object members)).fault = some (.edit fault)) := by
  have hall := follows_all hquiet hkeeps
  have htells : session.announcements operations =
    (stagesAll session.state operations).flatMap session.told := hall.tells
  refine ⟨htells, fun hnames listener hmem => ?_, ?_, fun edit hfault => ?_, fun members =>
    (reaches_editAll hquiet members).reached⟩
  · have hone (state : EditorState) := received_told hmem hnames state
    simp only [received] at hone
    simp only [received, htells, List.filter_flatMap, List.map_flatMap, hone]
    exact List.map_eq_flatMap.symm
  · have hleads : session.performAll operations =
      (stagesAll session.state operations).getLast?.elim session session.atStage := hall.leads
    rw [hleads, List.getLastD_eq_getLast?, List.getLast?_map]
    cases (stagesAll session.state operations).getLast? with
    | none => rfl
    | some last => rfl
  · rw [(follows_edit hquiet edit).2] at hfault
    rw [Operation.stages]
    cases hedit : session.state.edit edit with
    | ok next => exact absurd (by rw [hedit]; rfl) hfault
    | error fault => rfl

/-- Edits of which some cannot be made, a batch that comes to its third change, and a view that is run. -/
def batchOperations : List Operation :=
  [.edit (.template (.string "A")),
    .applyChanges (.object [("colour", .null), ("template", .string "B"), ("render_mode", .string "nope"),
      ("template", .string "C")]),
    .edit (.view (.string "nope")), .runView (.string "tokens"), .reset]

/-- Two listeners that never break off. -/
def twoListeners : List Listener := [⟨"a", fun _ => false⟩, ⟨"b", fun _ => false⟩]

/-- Each of the two listeners is told of three stages. -/
theorem received_batchOperations : ∃ session,
    Session.create plainConfig (templateEngine false) ⟨none, "s"⟩ (startWith "w") = .ok session ∧
      ∀ listener ∈ twoListeners, ∃ first second last : EditorState,
        [first, second, last].map (·.draft.template) =
          [.string "A", .string "B", .string Sample.template] ∧
        received listener.id
            ({ session with listeners := twoListeners }.announcements batchOperations) =
          [first, second, last].map (·.outcome session.engine) := by
  obtain ⟨session, hcreate, -, -, -⟩ := exists_created "w"
  refine ⟨session, hcreate, fun listener hmem => ?_⟩
  have hquiet : ∀ one ∈ ({ session with listeners := twoListeners } : Session).listeners,
      IsQuiet one := by
    simp [twoListeners, IsQuiet]
  have hkeeps : ∀ operation ∈ batchOperations, operation.KeepsListeners := by
    simp [batchOperations, Operation.KeepsListeners]
  obtain ⟨-, hreceived, -, -, -⟩ := received_eq_outputs hquiet hkeeps
  have hnames : (twoListeners.map Listener.id).Nodup := by decide
  have htold := hreceived hnames listener hmem
  obtain ⟨first, second, last, hstages, htemplates⟩ : ∃ first second last : EditorState,
      stagesAll session.state batchOperations = [first, second, last] ∧
        [first, second, last].map (·.draft.template) =
          [.string "A", .string "B", .string Sample.template] := ⟨_, _, _, rfl, rfl⟩
  rw [hstages] at htold
  exact ⟨first, second, last, htemplates, htold⟩

end Session

end TemplateWorkbench
