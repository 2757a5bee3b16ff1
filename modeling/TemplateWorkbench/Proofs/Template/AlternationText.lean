import TemplateWorkbench.Proofs.Json.Writing
import TemplateWorkbench.Proofs.Template.AlternationProgram
import TemplateWorkbench.Proofs.Template.Memory
import TemplateWorkbench.Template.Environment

/-!
# The text of an alternation

A program of literal texts and slots prints its texts as they are.  What it prints for a slot depends on
two names.  A value becomes JSON text where the name of the context asks for it, and the text that it is
printed as elsewhere; this text is escaped where the name of the template itself stands for markup.  The
names are the same unless the template is run in the context of another one.
-/

namespace TemplateWorkbench.Template

open Json (Canonical NamesDistinct)
open Run

variable {template running own : String} {services : Services} {scene : Scene} {memory : Memory}

/-- What a template of a name shows of a value, before escaping. -/
def shown? (template : String) (json : Json) : Option String :=
  if printsJson template then (Json.line json).toOption else json.printed?

/-- Text as a template of a name escapes it. -/
def escapedBy (template : String) (text : String) : String :=
  if escapesByName template then Text.escapeMarkup text else text

/-- What a template prints for a value that is run in a context under a name. -/
def encodingIn? (running own : String) (json : Json) : Option String :=
  (shown? running json).map (escapedBy own)

/-- What a template of a name prints for a value. -/
def encoding? (template : String) (json : Json) : Option String :=
  (shown? template json).map (escapedBy template)

/-! ### Printing a value -/

variable {json : Json} {value : Value}

theorem gives_lookFor (hvalue : Represents json value) :
    Gives (services.lookFor value) memory (memory.look writingDepth) memory := by
  unfold Services.lookFor
  rw [hvalue.loopsIn]
  rfl

theorem exists_gives_printed (hvalue : Represents json value) (hcanonical : Canonical json)
    (services : Services) (memory : Memory) :
    ∃ text, json.printed? = some text ∧ Gives (services.printed value) memory text memory := by
  obtain ⟨text, htext, hprinted⟩ := hvalue.printed hcanonical (memory.look writingDepth)
  exact ⟨text, htext, (gives_lookFor hvalue).bind (gives_lift hprinted memory)⟩

/-- What is left of a value before it is printed is plain data again: a text where JSON is printed, and
the value itself elsewhere. -/
theorem exists_gives_finalize (hvalue : Represents json value) (hcanonical : Canonical json)
    (hname : (memory.contextOf scene).name = running) (services : Services) :
    ∃ final data, Gives (finalize services scene value) memory final memory ∧
      Represents data final ∧ Canonical data ∧ data.printed? = shown? running json := by
  -- Where JSON is printed, its text is what is left of the value.
  by_cases hjson : printsJson running = true
  · obtain ⟨text, hline⟩ := hcanonical.line
    have htext : value.jsonText (memory.look writingDepth) = .ok text := by
      rw [Value.jsonText, hvalue.toJson hcanonical]
      simp only [bind, Except.bind, hline]
      rfl
    refine ⟨.string text, .string text, ?_, .string text, .string text, ?_⟩
    · exact gives_finalize (hname ▸ hjson) hvalue.isUndefined (gives_lookFor hvalue) htext
    · rw [shown?, if_pos hjson, hline]
      rfl
  · refine ⟨value, json, ?_, hvalue, hcanonical, by rw [shown?, if_neg hjson]⟩
    have hcondition : ¬ (printsJson (memory.contextOf scene).name && !value.isUndefined) = true := by
      rw [hname]
      simp [hjson]
    unfold finalize
    refine (gives_contextOf scene _).bind ?_
    rw [if_neg hcondition]
    exact gives_pure _ _

theorem gives_holds (escapes : Bool) :
    Gives ((Alternation.escapingOf escapes).holds services scene) memory escapes memory := by
  cases escapes <;> rfl

/-- A value is printed as the name of the context and that of the template want it. -/
theorem exists_gives_printedChunk (hvalue : Represents json value) (hcanonical : Canonical json)
    (hname : (memory.contextOf scene).name = running) (own : String) (services : Services) :
    ∃ text, encodingIn? running own json = some text ∧
      Gives (printedChunk services scene (Alternation.escapingOf (escapesByName own)) value)
        memory { value := .string text } memory := by
  obtain ⟨final, data, hfinal, hrepresents, hdata, hshown⟩ :=
    exists_gives_finalize hvalue hcanonical hname services
  obtain ⟨text, htext, hprinted⟩ := exists_gives_printed hrepresents hdata services memory
  refine ⟨escapedBy own text, by rw [encodingIn?, ← hshown, htext]; rfl, ?_⟩
  refine hfinal.bind ((gives_holds (escapesByName own)).bind ?_)
  by_cases hescapes : escapesByName own = true
  · have hown : Gives (Services.ownMarkup? final) memory none memory := by
      rw [hrepresents.ownMarkup?]
      rfl
    have hescaped : Gives (services.escape final) memory (Text.escapeMarkup text) memory :=
      hown.bind (hprinted.bind (gives_pure _ _))
    rw [escapedBy, if_pos hescapes]
    simp only [if_pos hescapes]
    exact hescaped.bind (gives_pure _ _)
  · rw [escapedBy, if_neg hescapes]
    simp only [if_neg hescapes]
    exact hprinted.bind (gives_pure _ _)

/-! ### Printing an alternation -/

/-- What is printed is made of texts, and together they are a text. -/
def Prints (output : Output) (text : String) : Prop :=
  ∀ position, joinParts.go position (output.map (·.value)) = .ok text

theorem Prints.cons {output : Output} {others : String} (hprints : Prints output others)
    (text : String) (passesBy : Bool) :
    Prints ({ value := .string text, passesBy } :: output) (text ++ others) := by
  intro position
  rw [List.map_cons, joinParts.go]
  simp only [Value.text?, hprints (position + 1), bind, Except.bind, pure, Except.pure]

theorem Prints.settled {output : Output} {text : String} (hprints : Prints output text) :
    Prints (settled output) text := by
  intro position
  have hvalues : (Template.settled output).map (·.value) = output.map (·.value) := by
    rw [Template.settled, List.map_map]
    rfl
  rw [hvalues, hprints position]

/-- In the slots of names stands what the members of those names stand for, and nothing in the others; the
context has a name of its own. -/
structure Ready (running : String) (members : List (String × Json)) (names : List String)
    (memory : Memory) (scene : Scene) : Prop where
  name : (memory.contextOf scene).name = running
  slots : ∀ name ∈ names, Option.Rel Represents (members.lookup name)
    (slotIn memory.activations ⟨0, name⟩ scene.activation)

variable {members : List (String × Json)}

/-- A context knows of some names what the members of those names stand for, and nothing of the others. -/
def Knows (members : List (String × Json)) (names : List String) (context : Context) : Prop :=
  ∀ name ∈ names, Option.Rel Represents (members.lookup name) (context.resolve? name)

/-- What is known of the context that a template runs in: the name it was opened under, that nothing has been
assigned in it, and the values of some names. -/
structure Offers (running : String) (members : List (String × Json)) (names : List String)
    (context : Context) : Prop where
  name : context.name = running
  unassigned : context.assigned = []
  knows : Knows members names context

theorem Offers.mono {names others : List String} {context : Context}
    (hoffers : Offers running members names context) (hsub : ∀ name ∈ others, name ∈ names) :
    Offers running members others context :=
  ⟨hoffers.name, hoffers.unassigned, fun name hname => hoffers.knows name (hsub name hname)⟩

namespace Alternation

variable {host : Host}

/-- What a name means where a template of a name prints it. -/
def meaning? (template : String) (members : List (String × Json)) (name : String) :
    Option String :=
  (members.lookup name).bind (encoding? template)

/-- What a name means where a template prints it that is run in a context under a name. -/
def meaningIn? (running own : String) (members : List (String × Json)) (name : String) :
    Option String :=
  (members.lookup name).bind (encodingIn? running own)

theorem exists_gives_data {rest : List Printed} {output : Output} {others : String}
    (hrest : Gives (rest.mapM (printPart host scene)) memory output memory)
    (hprints : Prints output others) (text : List Char) :
    ∃ all, Gives ((dataPrinted text ++ rest).mapM (printPart host scene)) memory all memory ∧
      Prints all (String.ofList text ++ others) := by
  cases text with
  | nil => exact ⟨output, hrest, by simpa using hprints⟩
  | cons c more =>
      refine ⟨{ value := .string (String.ofList (c :: more)) } :: output, ?_, hprints.cons _ _⟩
      have hparts : dataPrinted (c :: more) ++ rest = .text (String.ofList (c :: more)) :: rest := rfl
      rw [hparts, List.mapM_cons]
      exact Gives.bind (gives_pure _ _) (hrest.bind (gives_pure _ _))

/-- The slot of a name that has a member is printed as what the name means. -/
theorem exists_gives_name {names : List String} (hready : Ready running members names memory scene)
    (hmembers : ∀ member ∈ members, Canonical member.2) {name : String} (hname : name ∈ names)
    (hkey : name ∈ members.map Prod.fst) (host : Host) (line : Nat) :
    ∃ text, meaningIn? running own members name = some text ∧
      Gives (printPart host scene
          (.value line (.slot ⟨0, name⟩ name) (escapingOf (escapesByName own))))
        memory { value := .string text } memory := by
  obtain ⟨json, hlookup⟩ := Json.exists_lookup hkey
  have hslot := hready.slots name hname
  rw [hlookup] at hslot
  generalize hread : slotIn memory.activations ⟨0, name⟩ scene.activation = value? at hslot
  cases hslot with
  | @some _ value hvalue =>
      have hcanonical : Canonical json := hmembers _ (Json.mem_of_lookup_eq_some hlookup)
      obtain ⟨text, htext, hchunk⟩ :=
        exists_gives_printedChunk hvalue hcanonical hready.name own host.services
      refine ⟨text, by rw [meaningIn?, hlookup]; exact htext, ?_⟩
      have hslotRead : Gives (readSlot scene ⟨0, name⟩) memory (some value) memory := by
        rw [← hread]
        rfl
      have heval : Gives (eval host scene (.slot ⟨0, name⟩ name)) memory value memory := by
        rw [eval]
        exact hslotRead.bind (gives_pure _ _)
      exact (heval.bind hchunk).placed line

/-- The parts of an alternation are printed as they are, with the meanings of the names between. -/
theorem exists_gives_parts {alternation : Alternation}
    (hready : Ready running members alternation.names memory scene)
    (hmembers : ∀ member ∈ members, Canonical member.2)
    (hkeys : ∀ name ∈ alternation.names, name ∈ members.map Prod.fst) (own : String) (host : Host)
    (line : Nat) :
    ∃ output text,
      Gives ((alternation.printed (escapingOf (escapesByName own)) line).mapM
        (printPart host scene)) memory output memory ∧
      alternation.filled? (meaningIn? running own members) = some text ∧ Prints output text := by
  -- Every part begins on the line on which the one before it ends, so the line varies.
  induction alternation generalizing line with
  | last text =>
      have hnone : Gives (([] : List Printed).mapM (printPart host scene)) memory [] memory := rfl
      obtain ⟨output, houtput, hprints⟩ := exists_gives_data hnone (fun _ => rfl) text
      rw [List.append_nil] at houtput
      exact ⟨output, _, houtput, rfl, by simpa using hprints⟩
  | print text name rest ih =>
      have hrestReady : Ready running members rest.names memory scene :=
        ⟨hready.name, fun other hmem => hready.slots other (List.mem_cons_of_mem _ hmem)⟩
      obtain ⟨output, others, houtput, hfilled, hprints⟩ :=
        ih hrestReady (fun other hmem => hkeys other (List.mem_cons_of_mem _ hmem))
          (line + Lexer.newlines text)
      obtain ⟨value, hvalue, hpart⟩ :=
        exists_gives_name hready hmembers List.mem_cons_self (hkeys name List.mem_cons_self) host
          (line + Lexer.newlines text)
      have hrest : Gives (List.mapM (printPart host scene)
          (.value (line + Lexer.newlines text) (.slot ⟨0, name⟩ name)
            (escapingOf (escapesByName own)) ::
            rest.printed (escapingOf (escapesByName own)) (line + Lexer.newlines text)))
          memory ({ value := .string value } :: output) memory := by
        rw [List.mapM_cons]
        exact hpart.bind (houtput.bind (gives_pure _ _))
      obtain ⟨all, hall, hprintsAll⟩ := exists_gives_data hrest (hprints.cons value false) text
      refine ⟨all, _, hall, ?_, hprintsAll⟩
      rw [filled?, hvalue, hfilled]
      simp only [bind, Option.bind, pure, String.append_assoc]

/-- The steps of an alternation print it. -/
theorem exists_gives_steps {alternation : Alternation}
    (hready : Ready running members alternation.names memory scene)
    (hmembers : ∀ member ∈ members, Canonical member.2)
    (hkeys : ∀ name ∈ alternation.names, name ∈ members.map Prod.fst) (own : String)
    (library : Library) (host : Host) :
    ∃ output text,
      Gives (executeAll library host scene
        (alternation.steps (escapingOf (escapesByName own)))) memory output memory ∧
      alternation.filled? (meaningIn? running own members) = some text ∧ Prints output text := by
  obtain ⟨output, text, houtput, hfilled, hprints⟩ :=
    exists_gives_parts hready hmembers hkeys own host 1
  rw [steps]
  split
  · -- Only the empty template has no parts.
    next hempty =>
      cases alternation with
      | last text =>
          cases text with
          | nil => exact ⟨[], "", rfl, rfl, fun _ => rfl⟩
          | cons c more => cases hempty
      | print text name rest => simp [parts] at hempty
  · refine ⟨output ++ [], text, ?_, hfilled, by simpa using hprints⟩
    rw [executeAll, execute]
    exact houtput.bind ((gives_pure _ _).bind (gives_pure _ _))

/-! ### Rendering -/

/-- What a program of an alternation looks up is in its slots once its scope has been entered, and no other
parent has been chosen. -/
theorem exists_gives_enter_ready {plan : ScopePlan} {names : List String}
    (hfills : FillsFrom plan names) {before : Memory} {activation : Activation}
    (hactivation : before.activations[scene.activation]? = some activation)
    (hname : (before.contextOf scene).name = running)
    (hknows : Knows members names (before.contextOf scene)) :
    ∃ after entered, Gives (scene.enter plan) before () after ∧ after.contexts = before.contexts ∧
      after.activations[scene.activation]? = some entered ∧ entered.parent = activation.parent ∧
      Ready running members names after scene := by
  have hplan : ∀ entry ∈ plan, ∃ name, entry = (⟨0, name⟩, .context name) := by
    intro entry hentry
    obtain ⟨name, -, heq⟩ := hfills.only entry hentry
    exact ⟨name, heq⟩
  obtain ⟨after, entered, henter, hcontexts, hentered, hparent, hcells⟩ :=
    exists_gives_enter scene hplan hactivation
  have hcontext : after.contextOf scene = before.contextOf scene := by
    rw [Memory.contextOf, hcontexts, Memory.contextOf]
  refine ⟨after, entered, henter, hcontexts, hentered, hparent, by rw [hcontext, hname],
    fun name hmem => ?_⟩
  have hslot : slotIn after.activations ⟨0, name⟩ scene.activation =
      (before.contextOf scene).resolve? name :=
    slotIn_of_cell? hentered (by rw [hcells name, if_pos (hfills.all name hmem)])
  rw [hslot]
  exact hknows name hmem

/-- The program of an alternation under a name. -/
def program (template : String) (plan : ScopePlan) (alternation : Alternation) : Program :=
  ⟨template, ⟨none, none, plan, alternation.steps (escapingOf (escapesByName template))⟩, .none, []⟩

/-- The scene of the root of a template that is run next in a context. -/
def rootScene (own : String) (context : Nat) (memory : Memory) : Scene :=
  { context, activation := memory.activations.size, root := memory.activations.size, template := own }

/-- A root fills its slots and chooses no parent before its steps are done. -/
theorem exists_runRoutine_eq {plan : ScopePlan} {names : List String}
    (hfills : FillsFrom plan names) {context : Nat} {opened : Context}
    (hcontext : memory.contexts[context]? = some opened)
    (hoffers : Offers running members names opened) (own : String) (library : Library) (host : Host) :
    ∃ before activation, before.contexts = memory.contexts ∧
      before.activations[(rootScene own context memory).root]? = some activation ∧
      activation.parent = none ∧
      Ready running members names before (rootScene own context memory) ∧
      ∀ steps,
        (runRoutine library host own context ⟨none, none, plan, steps⟩ (pure .none)).run.run memory =
          (executeAll library host (rootScene own context memory) steps >>= fun output =>
            pure (rootScene own context memory, Template.settled output)).run.run before := by
  let scene := rootScene own context memory
  let middle : Memory := { memory with activations := memory.activations.push {} }
  -- The slots are those of the newest activation, which belongs to the root.
  have hactivation : middle.activations[scene.activation]? = some {} := Array.getElem?_push_size
  have hopened : middle.contextOf scene = opened := by
    rw [Memory.contextOf]
    exact congrArg (·.getD default) hcontext
  obtain ⟨before, entered, henter, hcontexts, hentered, hparent, hready⟩ :=
    exists_gives_enter_ready hfills hactivation (by rw [hopened, hoffers.name])
      (by rw [hopened]; exact hoffers.knows)
  refine ⟨before, entered, hcontexts, hentered, hparent, hready, fun steps => ?_⟩
  have hnew : Gives (newActivation {}) memory memory.activations.size middle := rfl
  unfold runRoutine
  rw [hnew.run_bind]
  exact henter.run_bind _

/-- The root of the program prints the alternation, in a context that knows the values of the names. -/
theorem exists_gives_runRoot {alternation : Alternation} {plan : ScopePlan} {library : Library}
    (hfills : FillsFrom plan alternation.names)
    (hprogram : library.program? own = some (alternation.program own plan))
    {context : Nat} {opened : Context} (hcontext : memory.contexts[context]? = some opened)
    (hoffers : Offers running members alternation.names opened)
    (hmembers : ∀ member ∈ members, Canonical member.2)
    (hkeys : ∀ name ∈ alternation.names, name ∈ members.map Prod.fst) (host : Host) :
    ∃ output text after, Gives (runRoot library host own context) memory output after ∧
      alternation.filled? (meaningIn? running own members) = some text ∧ Prints output text := by
  obtain ⟨before, activation, -, -, -, hready, hroutine⟩ :=
    exists_runRoutine_eq hfills hcontext hoffers own library host
  obtain ⟨output, text, houtput, hfilled, hprints⟩ :=
    exists_gives_steps hready hmembers hkeys own library host
  refine ⟨Template.settled output, text, before, ?_, hfilled, hprints.settled⟩
  have hroot : Gives (runRoutine library host own context (alternation.program own plan).root
      (pure .none)) memory (rootScene own context memory, Template.settled output) before :=
    (hroutine _).trans (houtput.bind (gives_pure _ _))
  unfold runRoot
  rw [hprogram]
  exact hroot.bind (gives_pure _ _)

/-- A template of the library is found under its name. -/
theorem gives_find {library : Library} {program : Program}
    (hprogram : library.program? template = some program) (memory : Memory) :
    Gives (library.find (.string template)) memory template memory := by
  unfold Library.find
  simp only [Value.text?, Option.filter, hprogram]
  rfl

/-- A context is opened for a template that has no blocks. -/
theorem exists_gives_openContext {library : Library} {program : Program}
    (hprogram : library.program? template = some program) (hblocks : program.blocks = [])
    (given : List (String × Value)) (memory : Memory) :
    ∃ context opened after, Gives (openContext library template given) memory context after ∧
      after.contexts[context]? = some opened ∧ opened.name = template ∧ opened.given = given ∧
      opened.assigned = [] := by
  let opened : Context := { name := template, given, escaping := memory.escaping.size }
  let after : Memory :=
    { memory with
      escaping := memory.escaping.push (.bool (escapesByName template))
      contexts := memory.contexts.push opened }
  refine ⟨memory.contexts.size, opened, after, ?_, Array.getElem?_push_size, rfl, rfl, rfl⟩
  unfold openContext
  rw [hprogram]
  simp only [Option.map_some, Option.getD_some, hblocks, List.map_nil]
  rfl

theorem root_within (library : Library) (room : Nat) (template : String) (context : Nat) :
    (Host.within library (room + 4)).root template context =
      runRoot library (Host.within library (room + 3)) template context := rfl

/-- The text of what the root of a template prints in a context. -/
def rootText (library : Library) (template : String) (context : Nat) : Run String := do
  joinParts ((← (Host.within library callRoom).root template context).map (·.value))

/-! ### Environments -/

/-- The source of an alternation is compiled to the program of the settled one. -/
theorem exists_compileSource {alternation : Alternation} (hformed : alternation.WellFormed)
    (strict : Bool) (template : String) :
    ∃ plan, FillsFrom plan alternation.settled.names ∧
      Environment.compileSource strict template (String.ofList alternation.source) =
        .ok (alternation.settled.program template plan) := by
  have hlater : (Environment.settingFor strict template).printsConstants = false := rfl
  obtain ⟨plan, hfills, hcompile⟩ := compileTemplate_body (wellFormed_settled hformed) hlater
  refine ⟨plan, hfills, ?_⟩
  rw [Environment.compileSource, String.toList_ofList, parse_source hformed]
  exact hcompile

/-- A rendering runs the root of the template in a context that offers the given members; no name may be
that of a function unless there is a member of it. -/
theorem exists_render_eq_rootText {program : Program} {environment : Environment}
    (hprogram : environment.library.program? template = some program) (hblocks : program.blocks = [])
    (hdistinct : NamesDistinct members) {names : List String}
    (hnames : ∀ name ∈ names, name ∈ members.map Prod.fst ∨ Library.functions.lookup name = none) :
    ∃ memory context opened, memory.contexts[context]? = some opened ∧
      Offers template members names opened ∧
      (environment.render template (.object members)).1 =
        ((rootText environment.library template context).run.run memory).1.mapError fun fault =>
          fault.report (some template) (environment.sources.lookup template) := by
  obtain ⟨given, middle, hgiven, hhold⟩ := exists_gives_given members environment.memory
  obtain ⟨context, opened, memory, hopen, hcontext, hname, hfields, hassigned⟩ :=
    exists_gives_openContext hprogram hblocks (overlay Library.functions given) middle
  refine ⟨memory, context, opened, hcontext, ⟨hname, hassigned, fun name hmem => ?_⟩, ?_⟩
  · rw [Context.resolve?, hassigned, hfields]
    exact hhold.rel_lookup_overlay hdistinct (hnames name hmem)
  · -- The template is found, the members are put somewhere, and a context is opened with them.
    rw [Environment.render]
    simp only
    rw [(gives_find hprogram environment.memory).run_bind, hgiven.run_bind, Library.render,
      hopen.run_bind]
    unfold rootText
    generalize StateT.run (ExceptT.run _) memory = result
    rcases result with ⟨_ | _, _⟩
    · rfl
    · rfl

/-- An environment that has the program renders it, for every context that has its names. -/
theorem exists_render_environment {alternation : Alternation} {plan : ScopePlan}
    {environment : Environment} (hfills : FillsFrom plan alternation.names)
    (hprogram : environment.library.program? template = some (alternation.program template plan))
    (hcanonical : Canonical (.object members))
    (hkeys : ∀ name ∈ alternation.names, name ∈ members.map Prod.fst) :
    ∃ text, (environment.render template (.object members)).1 = .ok text ∧
      alternation.filled? (meaning? template members) = some text := by
  cases hcanonical with
  | object hdistinct hmembers =>
      obtain ⟨memory, context, opened, hcontext, hoffers, hrender⟩ :=
        exists_render_eq_rootText hprogram rfl hdistinct fun name hname => .inl (hkeys name hname)
      obtain ⟨output, text, after, hroot, hfilled, hprints⟩ :=
        exists_gives_runRoot hfills hprogram hcontext hoffers hmembers hkeys
          (Host.within environment.library (956 + 3))
      have htext : Gives (rootText environment.library template context) memory text after := by
        unfold rootText
        rw [show callRoom = 956 + 4 from rfl, root_within]
        exact hroot.bind (gives_lift (hprints 0) after)
      refine ⟨text, ?_, hfilled⟩
      rw [hrender, htext]
      rfl

/-- An environment of the source alone renders it, for every context that has its names. -/
theorem exists_render_source {alternation : Alternation} (hformed : alternation.WellFormed)
    (hcanonical : Canonical (.object members))
    (hkeys : ∀ name ∈ alternation.names, name ∈ members.map Prod.fst) (strict : Bool)
    (template : String) :
    ∃ environment text,
      Environment.ofSources strict [(template, String.ofList alternation.source)] =
        .ok environment ∧
      (environment.render template (.object members)).1 = .ok text ∧
      alternation.settled.filled? (meaning? template members) = some text := by
  obtain ⟨plan, hfills, hcompile⟩ := exists_compileSource hformed strict template
  let program := alternation.settled.program template plan
  let environment : Environment :=
    { sources := [(template, String.ofList alternation.source)]
      library := { strict, programs := [(template, program)] } }
  have hprogram : environment.library.program? template = some program := by
    rw [Library.program?, Json.lookup_cons, if_pos (beq_self_eq_true template)]
  have hsources : Environment.ofSources strict [(template, String.ofList alternation.source)] =
      .ok environment := by
    have hcompiled : Environment.compileAll strict
        [(template, String.ofList alternation.source)] = .ok [(template, program)] := by
      rw [Environment.compileAll, hcompile]
      rfl
    have hlast : Json.lastWins [(template, String.ofList alternation.source)] =
        [(template, String.ofList alternation.source)] := rfl
    rw [Environment.ofSources]
    simp only [hlast, hcompiled]
    rfl
  rw [← names_settled] at hkeys
  obtain ⟨text, hrender, hfilled⟩ := exists_render_environment hfills hprogram hcanonical hkeys
  exact ⟨environment, text, hsources, hrender, hfilled⟩

end Alternation

end TemplateWorkbench.Template
