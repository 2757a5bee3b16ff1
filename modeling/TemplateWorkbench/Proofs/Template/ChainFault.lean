import TemplateWorkbench.Proofs.Template.ChainText

/-!
# The faults of a chain

Where missing values may not be printed, a rendering of a chain stops at the first name that has no
member.  The fault is placed at the line of the template that prints the name, and it keeps this line on
the way out of all templates around.  The report however names the template that was asked for, and quotes
the line of that number in its source.
-/

namespace TemplateWorkbench.Template

open Json (Canonical NamesDistinct)
open Run Alternation

variable {running : String} {scene : Scene} {memory : Memory} {library : Library} {host : Host}
  {members : List (String × Json)} {fault : Fault}

/-- The fault of a missing name at a line. -/
def missingAt (id : String) (line : Nat) : Fault := (Absence.variable id).fault.at line

/-- All hosts of a library are as strict as it is. -/
theorem strict_within (library : Library) (room : Nat) :
    (Host.within library room).services.strict = library.strict := by
  rcases room with _ | _ | _ | _ | room
  all_goals rfl

/-! ### Printing a missing name -/

/-- A missing value that may not be printed stops the print. -/
theorem fails_printedChunk (absence : Absence) (services : Services) (scene : Scene)
    (escapes : Bool) (memory : Memory) :
    Fails (printedChunk services scene (escapingOf escapes) (.undefined true absence)) memory
      absence.fault := by
  have hfinal : Gives (finalize services scene (.undefined true absence)) memory
      (.undefined true absence) memory := by
    have hdefined : ¬ (printsJson (memory.contextOf scene).name &&
        !(Value.undefined true absence).isUndefined) = true := by
      rw [Value.isUndefined, Bool.not_true, Bool.and_false]
      exact Bool.false_ne_true
    unfold finalize
    refine (gives_contextOf scene memory).bind ?_
    rw [if_neg hdefined]
    exact gives_pure _ _
  have hprinted : Fails (services.printed (.undefined true absence)) memory absence.fault :=
    ⟨memory, rfl⟩
  refine hfinal.fails ((gives_holds escapes).fails ?_)
  cases escapes with
  | false => exact hprinted.bind _
  | true =>
      have hmarkup : Gives (Services.ownMarkup? (.undefined true absence)) memory none memory := rfl
      exact Fails.bind (hmarkup.fails (hprinted.bind _)) _

namespace Alternation

/-- The first name without a member, with the line at which it is printed. -/
def firstMissing? (members : List (String × Json)) (line : Nat) : Alternation → Option (String × Nat)
  | last _ => none
  | print text name rest =>
    let here := line + Lexer.newlines text
    if name ∈ members.map Prod.fst then rest.firstMissing? members here else some (name, here)

theorem mem_of_firstMissing?_eq_none {alternation : Alternation} {line : Nat}
    (hnone : alternation.firstMissing? members line = none) :
    ∀ name ∈ alternation.names, name ∈ members.map Prod.fst := by
  induction alternation generalizing line with
  | last text => exact fun _ hname => absurd hname List.not_mem_nil
  | print text first rest ih =>
      rw [firstMissing?] at hnone
      split at hnone
      · next hfirst =>
          intro name hname
          rcases List.mem_cons.mp hname with rfl | hrest
          · exact hfirst
          · exact ih hnone name hrest
      · cases hnone

/-- The slot of a name that has no member holds nothing, and printing it stops. -/
theorem fails_name {names : List String} (hready : Ready running members names memory scene)
    (hstrict : host.services.strict = true) {name : String} (hname : name ∈ names)
    (hkey : name ∉ members.map Prod.fst) (line : Nat) (escapes : Bool) :
    Fails (printPart host scene (.value line (.slot ⟨0, name⟩ name) (escapingOf escapes))) memory
      (missingAt name line) := by
  have hslot := hready.slots name hname
  rw [Json.lookup_eq_none hkey] at hslot
  have heval : Gives (eval host scene (.slot ⟨0, name⟩ name)) memory
      (.undefined true (.variable name)) memory := by
    have hread : Gives (readSlot scene ⟨0, name⟩) memory none memory := by
      cases hnothing : slotIn memory.activations ⟨0, name⟩ scene.activation with
      | some value =>
          rw [hnothing] at hslot
          cases hslot
      | none =>
          rw [← hnothing]
          rfl
    rw [eval]
    refine hread.bind ?_
    rw [Services.missing, hstrict]
    exact gives_pure _ _
  exact (heval.fails (fails_printedChunk _ _ _ _ _)).placed line

theorem fails_data {rest : List Printed} (hrest : Fails (rest.mapM (printPart host scene)) memory fault)
    (text : List Char) :
    Fails ((dataPrinted text ++ rest).mapM (printPart host scene)) memory fault := by
  cases text with
  | nil => exact hrest
  | cons c more =>
      have hparts : dataPrinted (c :: more) ++ rest = .text (String.ofList (c :: more)) :: rest := rfl
      rw [hparts, List.mapM_cons]
      exact (gives_pure _ _).fails (hrest.bind _)

/-- The parts before the first missing name are printed, and then the print stops. -/
theorem fails_parts {alternation : Alternation}
    (hready : Ready running members alternation.names memory scene)
    (hmembers : ∀ member ∈ members, Canonical member.2) (hstrict : host.services.strict = true)
    (own : String) {line : Nat} {id : String} {place : Nat}
    (hmissing : alternation.firstMissing? members line = some (id, place)) :
    Fails ((alternation.printed (escapingOf (escapesByName own)) line).mapM (printPart host scene))
      memory (missingAt id place) := by
  induction alternation generalizing line with
  | last text => cases hmissing
  | print text name rest ih =>
      refine fails_data ?_ text
      rw [List.mapM_cons]
      rw [firstMissing?] at hmissing
      -- A name with a member is printed, and the first one without a member stops the print.
      split at hmissing
      · next hkey =>
          obtain ⟨value, -, hpart⟩ :=
            exists_gives_name hready hmembers List.mem_cons_self hkey host (line + Lexer.newlines text)
          have hrestReady : Ready running members rest.names memory scene :=
            ⟨hready.name, fun other hmem => hready.slots other (List.mem_cons_of_mem _ hmem)⟩
          exact hpart.fails ((ih hrestReady hmissing).bind _)
      · next hkey =>
          cases hmissing
          exact (fails_name hready hstrict List.mem_cons_self hkey _ _).bind _

theorem fails_steps {alternation : Alternation}
    (hready : Ready running members alternation.names memory scene)
    (hmembers : ∀ member ∈ members, Canonical member.2) (hstrict : host.services.strict = true)
    (own : String) (library : Library) {id : String} {place : Nat}
    (hmissing : alternation.firstMissing? members 1 = some (id, place)) :
    Fails (executeAll library host scene (alternation.steps (escapingOf (escapesByName own)))) memory
      (missingAt id place) := by
  have hparts := fails_parts hready hmembers hstrict own hmissing
  rw [steps]
  split
  · -- Only the empty template has no parts.
    next hempty =>
      cases alternation with
      | last text => cases hmissing
      | print text name rest => simp [parts] at hempty
  · rw [executeAll, execute]
    exact hparts.bind _

end Alternation

namespace Chain

/-- Where a name is printed that has no member: the template, the name and the line. -/
structure Missing where
  template : String
  id : String
  line : Nat
deriving DecidableEq, Repr

/-- The first name without a member in the order in which the templates are printed. -/
def firstMissing? (members : List (String × Json)) : Chain → Option Missing
  | last name part => (part.settled.firstMissing? members 1).map fun (id, line) => ⟨name, id, line⟩
  | link name part _ rest =>
    ((part.unified.firstMissing? members 1).map fun (id, line) => ⟨name, id, line⟩).or
      (rest.firstMissing? members)

/-- Steps that are done unless a parent has been chosen stop if none has been. -/
theorem fails_guarded {steps : List Step} {activation : Activation}
    (hactivation : memory.activations[scene.root]? = some activation)
    (hparent : activation.parent = none)
    (hsteps : Fails (executeAll library host scene steps) memory fault) (checks : Bool) :
    Fails (executeAll library host scene (guarded checks steps)) memory fault := by
  unfold guarded
  split
  · have hguarded : Fails (execute library host scene (.unlessExtended steps)) memory fault := by
      rw [execute]
      refine (gives_activationAt hactivation).fails ?_
      rw [hparent]
      exact hsteps
    rw [executeAll]
    exact hguarded.bind _
  · exact hsteps

/-- The roots of the templates stop at the first missing name. -/
theorem fails_root {chain : Chain} (hcompiled : chain.CompiledIn library)
    (hstrict : library.strict = true) (hmembers : ∀ member ∈ members, Canonical member.2)
    {missing : Missing} (hmissing : chain.firstMissing? members = some missing) {room : Nat}
    (hroom : chain.length + 3 ≤ room) {context : Nat} {opened : Context}
    (hcontext : memory.contexts[context]? = some opened)
    (hoffers : Offers running members chain.printedNames opened) :
    Fails ((Host.within library room).root chain.name context) memory
      (missingAt missing.id missing.line) := by
  induction chain generalizing running memory room context opened with
  | last name part =>
      obtain ⟨plan, hfills, hprogram⟩ := hcompiled
      obtain ⟨room, rfl⟩ : ∃ least, room = least + 4 := Nat.exists_eq_add_of_le' hroom
      rw [firstMissing?, Option.map_eq_some_iff] at hmissing
      obtain ⟨⟨id, line⟩, hfirst, rfl⟩ := hmissing
      have hnames (name : String) (hname : name ∈ part.settled.names) : name ∈ part.names := by
        rwa [names_settled] at hname
      obtain ⟨before, activation, -, -, -, hready, hroutine⟩ :=
        exists_runRoutine_eq hfills hcontext (hoffers.mono hnames) name library
          (Host.within library (room + 3))
      have hhost := (strict_within library (room + 3)).trans hstrict
      rw [root_within]
      exact fails_runRoot hprogram (hroutine _) (fails_steps hready hmembers hhost name library hfirst)
  | link name part reference rest ih =>
      obtain ⟨⟨plan, hfills, hprogram⟩, hrest⟩ := hcompiled
      obtain ⟨room, rfl, hinside⟩ := exists_room hroom
      obtain ⟨hoffersPart, hoffersRest⟩ := offers_link hoffers
      rw [root_within]
      cases hfirst : part.unified.firstMissing? members 1 with
      | some found =>
          -- The own part stops, and nothing of the others is reached.
          rw [firstMissing?, hfirst] at hmissing
          cases hmissing
          obtain ⟨before, activation, -, hactivation, hparent, hready, hroutine⟩ :=
            exists_runRoutine_eq hfills hcontext hoffersPart name library (Host.within library (room + 3))
          have hhost := (strict_within library (room + 3)).trans hstrict
          have hown := fails_guarded hactivation hparent
            (fails_steps hready hmembers hhost name library hfirst) reference.isExtension
          refine fails_runRoot hprogram (hroutine _) ?_
          rw [linkProgram, linkSteps, executeAll_append]
          exact hown.bind _
      | none =>
          rw [firstMissing?, hfirst, Option.map_none, Option.none_or] at hmissing
          obtain ⟨next, hnext, hblocks⟩ := hrest.exists_program
          obtain ⟨text, inner, offered, middle, hinner, hoffered, -, hgoes⟩ :=
            exists_goesOn hfills hprogram hnext hblocks hcontext hoffersPart hoffersRest hmembers
              (mem_of_firstMissing?_eq_none hfirst) (Host.within library (room + 3))
          exact hgoes.fails rfl (ih hrest hmissing hinside hinner hoffered)

/-! ### Reports -/

/-- What a report of a missing name says of it, of a template and of the line in its source. -/
def missingReport (chain : Chain) (template id : String) (line : Nat) : String :=
  reportText "UndefinedError" (Text.quote id ++ " is undefined")
    ((presentText? (some template)).getD anonymousSource) (some line) (chain.sources.lookup template)

theorem report_missingAt (chain : Chain) (template id : String) (line : Nat) :
    (missingAt id line).report (some template) (chain.sources.lookup template) =
      chain.missingReport template id line := by
  have hwording : presentText? (some (missingAt id line).message) =
      some (Text.quote id ++ " is undefined") := by
    have hmessage : (missingAt id line).message = Text.quote id ++ " is undefined" := rfl
    have hpresent : (Text.quote id ++ " is undefined").isEmpty = false := by simp
    rw [hmessage, presentText?, Option.filter_some, hpresent]
    rfl
  rw [Fault.report, missingReport, hwording]
  rfl

/-- Where missing values may not be printed, a chain is not rendered in which a name has no member.  The
report tells of the first such name and of the line at which its own template prints it, but as a line of
the template that was asked for: it is right for the first template alone. -/
theorem exists_render_missing {chain : Chain} {members : List (String × Json)}
    (hformed : chain.WellFormed) (hdistinct : chain.names.Nodup) (hroom : chain.length + 3 ≤ callRoom)
    (hcanonical : Canonical (.object members))
    (hnames : ∀ name ∈ chain.printedNames,
      name ∈ members.map Prod.fst ∨ Library.functions.lookup name = none)
    {missing : Missing} (hmissing : chain.firstMissing? members = some missing) :
    ∃ environment, Environment.ofSources true chain.sources = .ok environment ∧
      (environment.render chain.name (.object members)).1 =
        .error (chain.missingReport chain.name missing.id missing.line) := by
  obtain ⟨environment, hsources, hheld, hstrict, hcompiled⟩ := exists_ofSources hformed hdistinct true
  obtain ⟨program, hprogram, hblocks⟩ := hcompiled.exists_program
  cases hcanonical with
  | object hmembersDistinct hmembers =>
      obtain ⟨memory, context, opened, hcontext, hoffers, hrender⟩ :=
        exists_render_eq_rootText hprogram hblocks hmembersDistinct hnames
      have hroot := fails_root hcompiled hstrict hmembers hmissing hroom hcontext hoffers
      have htext : Fails (rootText environment.library chain.name context) memory
          (missingAt missing.id missing.line) := by
        unfold rootText
        exact hroot.bind _
      obtain ⟨after, hstops⟩ := htext
      refine ⟨environment, hsources, ?_⟩
      rw [hrender, hstops, hheld, ← report_missingAt]
      rfl

/-- A template whose third line includes another one, the third line of which prints a name. -/
def thirdLines : Chain :=
  .link "main.txt" (.last "one\ntwo\n".toList) .inclusion
    (.last "part.txt" (.print "three\nfour\n".toList "v" (.last [])))

theorem exists_render_thirdLines :
    thirdLines.firstMissing? [] = some ⟨"part.txt", "v", 3⟩ ∧
      ∃ environment, Environment.ofSources true thirdLines.sources = .ok environment ∧
        (environment.render "main.txt" (.object [])).1 =
          .error ("UndefinedError: 'v' is undefined (in main.txt:3)\n\n" ++
            "   3 > \x7b% include \"part.txt\" %\x7d") := by
  have hmissing : thirdLines.firstMissing? [] = some ⟨"part.txt", "v", 3⟩ := by decide +kernel
  have hcanonical : Canonical (.object []) :=
    .object List.nodup_nil fun _ hmember => absurd hmember List.not_mem_nil
  obtain ⟨environment, hsources, hrender⟩ :=
    exists_render_missing (show thirdLines.WellFormed by decide +kernel) (by decide) (by decide)
      hcanonical (by decide +kernel) hmissing
  have hreport : thirdLines.missingReport "main.txt" "v" 3 =
      "UndefinedError: 'v' is undefined (in main.txt:3)\n\n" ++
        "   3 > \x7b% include \"part.txt\" %\x7d" := by
    decide +kernel
  exact ⟨hmissing, environment, hsources, hrender.trans (congrArg Except.error hreport)⟩

/-- A fault on the third line of an included template is told of the third line of the template around. -/
theorem render_includedDivision :
    (Environment.ofSources false
        [("main.txt", "\x7b% include 'part.txt' %\x7d\nsecond\nthird"),
          ("part.txt", "one\ntwo\n\x7b\x7b 1 // 0 \x7d\x7d")]).toOption.map
        (fun environment => (environment.render "main.txt" (.object [])).1) =
      some (.error ("ZeroDivisionError: integer division or modulo by zero (in main.txt:3)\n\n" ++
        "   3 > third")) := by
  decide +kernel

end Chain

end TemplateWorkbench.Template
