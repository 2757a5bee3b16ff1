import TemplateWorkbench.Proofs.Json.Members
import TemplateWorkbench.Proofs.Template.AlternationTree
import TemplateWorkbench.Template.Compile

/-!
# The program of an alternation

Compiling a template of text and prints meets nothing that a listing could not say, and decides nothing
that was not decided before: the progress stays *calm*.  So what matters of a step is the value that it
yields, and the program prints the literal texts as they are and the slots of the names in between.  The
slot of a name is set up from what the context has under the name.
-/

namespace TemplateWorkbench.Template

namespace Compiling

variable {α β : Type} {escapes chosen : Bool} {setting : Setting}

/-! ### Calm progress -/

/-- Nothing is wrong with the listing, it is known whether text is escaped, and a parent has been chosen
once and for all or not at all. -/
structure Calm (escapes chosen : Bool) (progress : Progress) : Prop where
  found : progress.listing.found = []
  escapes : progress.escapes = escapes
  decided : progress.undecided = false
  parents : progress.parents = chosen.toNat
  certain : progress.certainParent = chosen

/-- A computation gives a value, and it leads from progress of one kind to progress of another one. -/
def Leads (before after : Progress → Prop) (computation : Compiling α) (value : α) : Prop :=
  ∀ progress, before progress → ∃ next, computation progress = .ok (value, next) ∧ after next

/-- A computation gives a value, and the progress stays calm. -/
abbrev Yields (escapes chosen : Bool) (computation : Compiling α) (value : α) : Prop :=
  Leads (Calm escapes chosen) (Calm escapes chosen) computation value

theorem Leads.pure {before : Progress → Prop} (value : α) :
    Leads before before (pure value : Compiling α) value :=
  fun progress hbefore => ⟨progress, rfl, hbefore⟩

theorem Leads.bind {before middle after : Progress → Prop} {first : Compiling α}
    {next : α → Compiling β} {value : α} {result : β} (hfirst : Leads before middle first value)
    (hnext : Leads middle after (next value) result) :
    Leads before after (first >>= next) result := by
  intro progress hbefore
  obtain ⟨between, hbetween, hmiddle⟩ := hfirst progress hbefore
  obtain ⟨last, hlast, hafter⟩ := hnext between hmiddle
  refine ⟨last, ?_, hafter⟩
  have hbind : (first >>= next) progress =
      (first progress >>= fun pair => next pair.1 pair.2) := rfl
  rw [hbind, hbetween]
  exact hlast

/-- What looks at the progress sees of what kind it is. -/
theorem Leads.look {before after : Progress → Prop} {next : Progress → Compiling α} {value : α}
    (hnext : ∀ progress, before progress → Leads before after (next progress) value) :
    Leads before after (get >>= next) value :=
  fun progress hbefore => hnext progress hbefore progress hbefore

theorem Leads.modify {before after : Progress → Prop} {change : Progress → Progress}
    (hchange : ∀ progress, before progress → after (change progress)) :
    Leads before after (modify change) () :=
  fun progress hbefore => ⟨change progress, rfl, hchange progress hbefore⟩

theorem yields_mark (line : Nat) : Yields escapes chosen (mark line) () :=
  Leads.modify fun _ hcalm =>
    ⟨hcalm.found, hcalm.escapes, hcalm.decided, hcalm.parents, hcalm.certain⟩

theorem yields_extend (count : Progress → Nat) :
    Yields escapes chosen
      (modify fun p => { p with listing := p.listing.extend (count p) } : Compiling Unit) () :=
  Leads.modify fun _ hcalm =>
    ⟨hcalm.found, hcalm.escapes, hcalm.decided, hcalm.parents, hcalm.certain⟩

/-- Rows that are not indented too far can be written. -/
theorem yields_write {frame : Frame} (hindent : frame.indent ≤ Listing.mostIndented)
    (count : Nat) : Yields escapes chosen (write frame count) () := by
  have hnot : ¬ (0 < count && Listing.mostIndented < frame.indent) = true := by
    simp only [Bool.and_eq_true, decide_eq_true_eq]
    omega
  unfold write
  refine (yields_extend fun _ => min count 1).bind ?_
  simp only [if_neg hnot]
  exact yields_extend fun _ => count - 1

theorem yields_escaping :
    Yields escapes chosen escaping (if escapes then Escaping.always else Escaping.never) := by
  refine Leads.look fun progress hcalm => ?_
  rw [hcalm.decided, hcalm.escapes]
  exact Leads.pure _

/-! ### Parts of an output statement -/

/-- An expression is compiled to the term of what has been prepared of it, if the brackets around it are so
few that they can be written. -/
theorem yields_expression {frame : Frame} {outside : Nat} {expr prepared : Expr} {result : Term}
    (hprepared : Yields escapes chosen (evaluate setting fun folding => folding.prepare expr) prepared)
    (hterm : Yields escapes chosen (term setting frame prepared) result)
    (hfew : outside + result.brackets ≤ Listing.mostBrackets) :
    Yields escapes chosen (expression setting frame outside expr) result := by
  unfold expression
  refine Leads.look fun progress hcalm => ?_
  simp only [hcalm.decided]
  refine hprepared.bind (hterm.bind ?_)
  simp only [if_neg (Nat.not_lt.mpr hfew)]
  exact Leads.pure _

/-- A name is compiled to its slot. -/
theorem yields_expression_name {frame : Frame} {outside : Nat}
    (houtside : outside + 2 ≤ Listing.mostBrackets) (line : Nat) (id : String) :
    Yields escapes chosen (expression setting frame outside (.name line id .load))
      (.slot (frame.slot id) id) := by
  refine yields_expression (Leads.look fun progress _ => Leads.pure _) (Leads.pure _) ?_
  simp only [Term.brackets]
  omega

theorem yields_printedNow?_data (line : Nat) (text : String) :
    Yields escapes chosen (printedNow? setting (.data line text)) (some text) := by
  refine Leads.look fun progress hcalm => ?_
  simp only [hcalm.decided]
  exact Leads.pure _

theorem yields_printedNow?_name (hlater : setting.printsConstants = false) (line : Nat)
    (id : String) : Yields escapes chosen (printedNow? setting (.name line id .load)) none := by
  refine Leads.look fun progress _ => ?_
  simp only [hlater]
  exact Leads.pure _

end Compiling

namespace Alternation

open Compiling

variable {escapes chosen : Bool} {setting : Setting}

/-- Literal text is known while compiling. -/
def dataKnown (line : Nat) (text : List Char) : List (Expr × Option String) :=
  (dataParts line text).map fun part => (part, some (String.ofList text))

/-- The parts of a template, each with its text if that is known while compiling. -/
def known (line : Nat) : Alternation → List (Expr × Option String)
  | last text => dataKnown line text
  | print text name rest =>
    let here := line + Lexer.newlines text
    dataKnown line text ++ (.name here name .load, none) :: rest.known here

/-- Literal text as a printed part. -/
def dataPrinted (text : List Char) : List Printed :=
  if text.isEmpty then [] else [.text (String.ofList text)]

/-- What the program of a template prints. -/
def printed (escaping : Escaping) (line : Nat) : Alternation → List Printed
  | last text => dataPrinted text
  | print text name rest =>
    let here := line + Lexer.newlines text
    dataPrinted text ++ .value here (.slot ⟨0, name⟩ name) escaping :: rest.printed escaping here

/-- The steps of the program of a template. -/
def steps (escaping : Escaping) (alternation : Alternation) : List Step :=
  if (alternation.parts 1).isEmpty then [] else [.print (alternation.printed escaping 1)]

theorem yields_printedParts_data {frame : Frame} {line : Nat} {text : List Char}
    {rest : List Expr} {others : List (Expr × Option String)}
    (hrest : Yields escapes chosen (printedParts setting frame rest) others) :
    Yields escapes chosen (printedParts setting frame (dataParts line text ++ rest))
      (dataKnown line text ++ others) := by
  cases text with
  | nil => exact hrest
  | cons c more =>
      exact (yields_printedNow?_data line _).bind (hrest.bind (Leads.pure _))

/-- The texts of literal parts are known while compiling, those of names are not. -/
theorem yields_printedParts (hlater : setting.printsConstants = false) (frame : Frame) (line : Nat)
    (alternation : Alternation) :
    Yields escapes chosen (printedParts setting frame (alternation.parts line)) (alternation.known line) := by
  induction alternation generalizing line with
  | last text =>
      have hnone : Yields escapes chosen (printedParts setting frame []) [] := Leads.pure []
      have hlast : Yields escapes chosen (printedParts setting frame (dataParts line text ++ []))
          (dataKnown line text ++ []) := yields_printedParts_data hnone
      simpa [parts, known] using hlast
  | print text name rest ih =>
      refine yields_printedParts_data ?_
      exact (yields_printedNow?_name hlater _ name).bind ((ih _).bind (Leads.pure _))

/-- Two literal parts never follow one another, so none are joined. -/
theorem joinTexts_known (line : Nat) (alternation : Alternation) :
    joinTexts (alternation.known line) = alternation.known line := by
  induction alternation generalizing line with
  | last text => cases text <;> rfl
  | print text name rest ih =>
      cases text <;> simp [known, dataKnown, dataParts, joinTexts, ih]

/-- How text is escaped if it is known whether it is. -/
def escapingOf (escapes : Bool) : Escaping := if escapes then .always else .never

theorem yields_outputParts_data {frame : Frame} (hindent : frame.indent ≤ Listing.mostIndented)
    {line : Nat} {text : List Char} {rest : List (Expr × Option String)} {others : List Printed}
    (hrest : Yields escapes chosen (outputParts setting frame 0 rest) others) :
    Yields escapes chosen (outputParts setting frame 0 (dataKnown line text ++ rest))
      (dataPrinted text ++ others) := by
  cases text with
  | nil => exact hrest
  | cons c more => exact (yields_write hindent 1).bind (hrest.bind (Leads.pure _))

/-- A template prints its literal texts, and the slots of its names. -/
theorem yields_outputParts (hlater : setting.printsConstants = false) {frame : Frame}
    (hindent : frame.indent ≤ Listing.mostIndented) {alternation : Alternation}
    (hslots : ∀ name ∈ alternation.names, frame.slot name = ⟨0, name⟩) (line : Nat) :
    Yields escapes chosen (outputParts setting frame 0 (alternation.known line))
      (alternation.printed (escapingOf escapes) line) := by
  induction alternation generalizing line with
  | last text =>
      have hnone : Yields escapes chosen (outputParts setting frame 0 []) [] := Leads.pure []
      have hlast : Yields escapes chosen (outputParts setting frame 0 (dataKnown line text ++ []))
          (dataPrinted text ++ []) := yields_outputParts_data hindent hnone
      simpa [known, printed] using hlast
  | print text name rest ih =>
      have hname := hslots name List.mem_cons_self
      have hrest := ih (fun other hother => hslots other (List.mem_cons_of_mem _ hother))
        (line + Lexer.newlines text)
      have hexpression : Yields escapes chosen
          (expression setting frame 2 (.name (line + Lexer.newlines text) name .load))
          (.slot ⟨0, name⟩ name) := by
        rw [← hname]
        exact yields_expression_name (by decide) _ name
      refine yields_outputParts_data hindent ?_
      rw [outputParts]
      refine (yields_write hindent 1).bind ((yields_mark _).bind ?_)
      simp only [hlater]
      exact hexpression.bind (yields_escaping.bind (hrest.bind (Leads.pure _)))

/-- What an output statement of a template prints. -/
theorem yields_printed (hlater : setting.printsConstants = false) {frame : Frame}
    (hindent : frame.indent ≤ Listing.mostIndented) (hkeeps : frame.keeps = false)
    {alternation : Alternation}
    (hslots : ∀ name ∈ alternation.names, frame.slot name = ⟨0, name⟩) :
    Yields escapes chosen (Template.printed setting frame (alternation.parts 1))
      (alternation.printed (escapingOf escapes) 1) := by
  unfold Template.printed
  refine (yields_printedParts hlater frame 1 alternation).bind ?_
  rw [joinTexts_known, hkeeps]
  exact yields_outputParts hlater hindent hslots 1

/-- Steps that are done only if no parent has been chosen, where that has to be asked for. -/
def guarded (checks : Bool) (steps : List Step) : List Step :=
  if checks && !steps.isEmpty then [.unlessExtended steps] else steps

/-- The steps of a template before those of further statements. -/
theorem leads_compileAll_append (hlater : setting.printsConstants = false) {frame : Frame}
    (hindent : frame.indent + 1 ≤ Listing.mostIndented) (hkeeps : frame.keeps = false)
    {alternation : Alternation}
    (hslots : ∀ name ∈ alternation.names, frame.slot name = ⟨0, name⟩)
    {after : Progress → Prop} {tail : List Statement} {others : List Step}
    (htail : Leads (Calm escapes false) after (compileAll setting frame tail) others) :
    Leads (Calm escapes false) after (compileAll setting frame (alternation.body ++ tail))
      (guarded frame.checksOutput (alternation.steps (escapingOf escapes)) ++ others) := by
  unfold body steps
  cases hparts : alternation.parts 1 with
  | nil => simpa [guarded] using htail
  | cons first rest =>
      have hcompiled : Yields escapes false
          (compile setting frame (.output first.line (first :: rest)))
          ⟨guarded frame.checksOutput [.print (alternation.printed (escapingOf escapes) 1)],
            false⟩ := by
        rw [compile, ← hparts]
        refine Leads.look fun progress hcalm => ?_
        simp only [hcalm.certain, Bool.and_false, Bool.false_eq_true, if_false]
        cases frame.checksOutput with
        | false =>
            exact (yields_printed hlater (Nat.le_of_succ_le hindent) hkeeps hslots).bind
              (Leads.pure _)
        | true =>
            have hunder : Yields escapes false
                (Template.printed setting frame.under (alternation.parts 1))
                (alternation.printed (escapingOf escapes) 1) := by
              have hrows : frame.under.indent ≤ Listing.mostIndented := hindent
              exact yields_printed hlater hrows hkeeps hslots
            exact (yields_write (Nat.le_of_succ_le hindent) 1).bind (hunder.bind (Leads.pure _))
      rw [List.singleton_append, compileAll]
      refine hcompiled.bind (htail.bind ?_)
      exact Leads.pure _

/-- The steps of a template. -/
theorem yields_compileAll (hlater : setting.printsConstants = false) {frame : Frame}
    (hindent : frame.indent + 1 ≤ Listing.mostIndented) (hchecks : frame.checksOutput = false)
    (hkeeps : frame.keeps = false) {alternation : Alternation}
    (hslots : ∀ name ∈ alternation.names, frame.slot name = ⟨0, name⟩) :
    Yields escapes false (compileAll setting frame alternation.body)
      (alternation.steps (escapingOf escapes)) := by
  have hnone : Yields escapes false (compileAll setting frame []) [] := by
    rw [compileAll]
    exact Leads.pure []
  have hsteps := leads_compileAll_append hlater hindent hkeeps hslots hnone
  rwa [List.append_nil, List.append_nil, hchecks] at hsteps

/-! ### The scope of a template -/

theorem allMentions_append (first second : List Expr) :
    allMentions (first ++ second) = allMentions first ++ allMentions second := by
  induction first with
  | nil => rfl
  | cons expr rest ih => rw [List.cons_append, allMentions, allMentions, ih, List.append_assoc]

theorem allMentions_dataParts (line : Nat) (text : List Char) :
    allMentions (dataParts line text) = [] := by
  cases text <;> rfl

/-- A template mentions its names, and it reads them all. -/
theorem allMentions_parts (line : Nat) (alternation : Alternation) :
    (allMentions (alternation.parts line)).map (·.id) = alternation.names ∧
      ∀ mention ∈ allMentions (alternation.parts line),
        mention.use = .load ∧ mention.isNamespace = false ∧ mention.inBlock = false := by
  induction alternation generalizing line with
  | last text =>
      rw [parts, allMentions_dataParts]
      exact ⟨rfl, fun mention hmention => absurd hmention List.not_mem_nil⟩
  | print text name rest ih =>
      obtain ⟨hnames, huses⟩ := ih (line + Lexer.newlines text)
      rw [parts, allMentions_append, allMentions_dataParts, List.nil_append, allMentions]
      refine ⟨by simp [Expr.mentions, names, hnames], ?_⟩
      intro mention hmention
      rcases List.mem_append.mp hmention with hfirst | hrest
      · rw [Expr.mentions, List.mem_singleton] at hfirst
        rw [hfirst]
        exact ⟨rfl, rfl, rfl⟩
      · exact huses mention hrest

/-- The template does not ask for itself if none of its names is the one for that. -/
theorem openNamesFrom_self {mentions : List Mention}
    (hmentions : ∀ mention ∈ mentions,
      mention.use = .load ∧ mention.isNamespace = false ∧ mention.inBlock = false)
    (hself : ∀ mention ∈ mentions, mention.id ≠ "self") :
    openNamesFrom ["self"] [] mentions = [] := by
  induction mentions with
  | nil => rfl
  | cons mention rest ih =>
      obtain ⟨huse, hnamespace, hblock⟩ := hmentions mention List.mem_cons_self
      have hne := hself mention List.mem_cons_self
      have hrest := ih (fun other hother => hmentions other (List.mem_cons_of_mem _ hother))
        fun other hother => hself other (List.mem_cons_of_mem _ hother)
      have hsought : ["self"].filter (· != mention.id) = ["self"] := by
        simp [Ne.symm hne]
      rw [openNamesFrom, hblock, hnamespace, hsought, hrest]
      simp [hne]

/-- A scope looks some names up in the context, and nothing else. -/
structure LooksUp (scope : Scope) (names : List String) : Prop where
  level : scope.level = 0
  unbound : scope.bound = []
  only : ∀ entry ∈ scope.origins, entry.1 ∈ names ∧ entry.2 = .context entry.1
  all : ∀ name ∈ names, ∃ origin, (name, origin) ∈ scope.origins

theorem looksUp_inside : LooksUp (Scope.inside []) [] :=
  ⟨rfl, rfl, fun _ hentry => absurd hentry List.not_mem_nil,
    fun _ hname => absurd hname List.not_mem_nil⟩

theorem eq_or_mem_of_mem_putOrigin {name : String} {origin : Origin}
    {origins : List (String × Origin)} {entry : String × Origin}
    (hentry : entry ∈ putOrigin name origin origins) : entry = (name, origin) ∨ entry ∈ origins := by
  induction origins with
  | nil => exact .inl (List.mem_singleton.mp hentry)
  | cons first rest ih =>
      obtain ⟨other, old⟩ := first
      rw [putOrigin] at hentry
      split at hentry
      · rcases List.mem_cons.mp hentry with hfirst | hrest
        · exact .inl hfirst
        · exact .inr (List.mem_cons_of_mem _ hrest)
      · rcases List.mem_cons.mp hentry with hfirst | hrest
        · exact .inr (hfirst ▸ List.mem_cons_self)
        · rcases ih hrest with hsame | hmem
          · exact .inl hsame
          · exact .inr (List.mem_cons_of_mem _ hmem)

/-- What is put is there, and every name that was there is still there. -/
theorem exists_mem_putOrigin {name other : String} {origin : Origin}
    {origins : List (String × Origin)} (hother : other = name ∨ ∃ old, (other, old) ∈ origins) :
    ∃ found, (other, found) ∈ putOrigin name origin origins := by
  induction origins with
  | nil =>
      rcases hother with rfl | ⟨old, hold⟩
      · exact ⟨origin, List.mem_singleton.mpr rfl⟩
      · cases hold
  | cons first rest ih =>
      obtain ⟨id, old⟩ := first
      rw [putOrigin]
      -- Where the name is found only its origin is replaced, and the name stays.
      split
      · next hid =>
          rcases hother with rfl | ⟨found, hfound⟩
          · exact ⟨origin, List.mem_cons_self⟩
          · rcases List.mem_cons.mp hfound with hfirst | hrest
            · obtain ⟨rfl, -⟩ := Prod.mk.inj hfirst
              rw [eq_of_beq hid]
              exact ⟨origin, List.mem_cons_self⟩
            · exact ⟨found, List.mem_cons_of_mem _ hrest⟩
      · rcases hother with rfl | ⟨found, hfound⟩
        · obtain ⟨found, hfound⟩ := ih (.inl rfl)
          exact ⟨found, List.mem_cons_of_mem _ hfound⟩
        · rcases List.mem_cons.mp hfound with hfirst | hrest
          · exact ⟨found, hfirst ▸ List.mem_cons_self⟩
          · obtain ⟨found, hfound⟩ := ih (.inr ⟨found, hrest⟩)
            exact ⟨found, List.mem_cons_of_mem _ hfound⟩

theorem LooksUp.read {scope : Scope} {names : List String} (hscope : LooksUp scope names)
    (name : String) : LooksUp (scope.read [] name) (names ++ [name]) := by
  unfold Scope.read
  -- A name that is known already keeps its origin, a new one is looked up in the context.
  split
  · next hsome =>
      have hlookup : ∃ origin, scope.origins.lookup name = some origin := by
        cases hfound : scope.origins.lookup name with
        | none => simp [slotOf?, hfound] at hsome
        | some origin => exact ⟨origin, rfl⟩
      obtain ⟨origin, horigin⟩ := hlookup
      refine ⟨hscope.level, hscope.unbound, fun entry hentry => ?_, fun other hother => ?_⟩
      · obtain ⟨hmem, hcontext⟩ := hscope.only entry hentry
        exact ⟨List.mem_append_left _ hmem, hcontext⟩
      · rcases List.mem_append.mp hother with hold | hnew
        · exact hscope.all other hold
        · rw [List.mem_singleton.mp hnew]
          exact ⟨origin, Json.mem_of_lookup_eq_some horigin⟩
  · refine ⟨hscope.level, hscope.unbound, fun entry hentry => ?_, fun other hother => ?_⟩
    · rcases eq_or_mem_of_mem_putOrigin hentry with rfl | hold
      · exact ⟨List.mem_append_right _ (List.mem_singleton.mpr rfl), rfl⟩
      · obtain ⟨hmem, hcontext⟩ := hscope.only entry hold
        exact ⟨List.mem_append_left _ hmem, hcontext⟩
    · refine exists_mem_putOrigin ?_
      rcases List.mem_append.mp hother with hold | hnew
      · exact .inr (hscope.all other hold)
      · exact .inl (List.mem_singleton.mp hnew)

theorem looksUp_meetAll {mentions : List Mention} (hloads : ∀ mention ∈ mentions, mention.use = .load)
    {scope : Scope} {names : List String} (hscope : LooksUp scope names) :
    LooksUp (scope.meetAll [] mentions) (names ++ mentions.map (·.id)) := by
  induction mentions generalizing scope names with
  | nil =>
      rw [List.map_nil, List.append_nil]
      exact hscope
  | cons mention rest ih =>
      have hmeet : scope.meet [] mention = scope.read [] mention.id := by
        rw [Scope.meet, hloads mention List.mem_cons_self]
      have hrest := ih (fun other hother => hloads other (List.mem_cons_of_mem _ hother))
        (hscope.read mention.id)
      rw [Scope.meetAll, List.foldl_cons, hmeet, List.map_cons, List.append_cons]
      exact hrest

/-- The scope of a template looks up its names. -/
theorem looksUp_visitAll (alternation : Alternation) :
    LooksUp (Scope.visitAll [] (Scope.inside []) alternation.body) alternation.names := by
  obtain ⟨hnames, huses⟩ := allMentions_parts 1 alternation
  have hscope := looksUp_meetAll (fun mention hmention => (huses mention hmention).1) looksUp_inside
  rw [List.nil_append, hnames] at hscope
  unfold body
  cases hparts : alternation.parts 1 with
  | nil =>
      rw [hparts] at hscope
      rw [Scope.visitAll]
      exact hscope
  | cons first rest =>
      rw [hparts] at hscope
      rw [Scope.visitAll, Scope.visitAll, Scope.visit]
      exact hscope

theorem slotOf_eq {scope : Scope} (hlevel : scope.level = 0) {name : String} (hname : IsName name) :
    slotOf [scope] name = ⟨0, name⟩ := by
  have hslot : Slot.ofName 0 name = ⟨0, name⟩ := by rw [Slot.ofName, hname.normal]
  unfold slotOf slotOf?
  cases hfound : scope.origins.lookup name <;> simp [hlevel, hslot, List.findSome?, hfound]

/-! ### The program -/

/-- The slots of a plan are set up from what the context has under some names. -/
structure FillsFrom (plan : ScopePlan) (names : List String) : Prop where
  only : ∀ entry ∈ plan, ∃ name ∈ names, entry = (⟨0, name⟩, .context name)
  all : ∀ name ∈ names, (⟨0, name⟩, .context name) ∈ plan

theorem LooksUp.fillsFrom {scope : Scope} {names : List String} (hscope : LooksUp scope names)
    (hnames : ∀ name ∈ names, IsName name) : FillsFrom scope.plan names := by
  have hslot {name : String} (hname : name ∈ names) : Slot.ofName 0 name = ⟨0, name⟩ := by
    rw [Slot.ofName, (hnames name hname).normal]
  unfold Scope.plan
  rw [hscope.level]
  refine ⟨fun entry hentry => ?_, fun name hname => ?_⟩
  · obtain ⟨⟨name, origin⟩, hmem, rfl⟩ := List.mem_map.mp hentry
    obtain ⟨hname, horigin⟩ := hscope.only _ hmem
    simp only at hname horigin
    refine ⟨name, hname, ?_⟩
    simp only [hslot hname, horigin]
  · obtain ⟨origin, hmem⟩ := hscope.all name hname
    obtain ⟨-, horigin⟩ := hscope.only _ hmem
    simp only at horigin
    refine List.mem_map.mpr ⟨_, hmem, ?_⟩
    simp only [hslot hname, horigin]

theorem WellFormed.isName {alternation : Alternation} (hformed : alternation.WellFormed)
    {name : String} (hname : name ∈ alternation.names) : IsName name ∧ name ∉ reservedNames := by
  induction alternation with
  | last text => cases hname
  | print text first rest ih =>
      obtain ⟨-, hfirst, hreserved, hrest⟩ := hformed
      rcases List.mem_cons.mp hname with rfl | hmem
      · exact ⟨isName_of_isAsciiName hfirst, hreserved⟩
      · exact ih hrest hmem

/-- The only statement of a template has no block and chooses no parent. -/
theorem plain_body (alternation : Alternation) :
    bodyBlocks alternation.body = [] ∧ bodyExtends alternation.body = false ∧
      bodyMentions alternation.body = allMentions (alternation.parts 1) := by
  unfold body
  cases hparts : alternation.parts 1 with
  | nil => exact ⟨rfl, rfl, rfl⟩
  | cons first rest =>
      refine ⟨rfl, rfl, ?_⟩
      rw [bodyMentions, bodyMentions, Statement.mentions, List.append_nil]

theorem openNames_body {alternation : Alternation} (hformed : alternation.WellFormed) :
    openNames ["self"] alternation.body = [] := by
  obtain ⟨-, -, hmentions⟩ := plain_body alternation
  obtain ⟨hnames, huses⟩ := allMentions_parts 1 alternation
  rw [openNames, hmentions]
  refine openNamesFrom_self huses fun mention hmention hself => ?_
  have hmem : mention.id ∈ alternation.names := by
    rw [← hnames]
    exact List.mem_map.mpr ⟨mention, hmention, rfl⟩
  rw [hself] at hmem
  exact (hformed.isName hmem).2 (by decide)

/-- The frame of the statements of a template, which ask for a parent if one may be chosen. -/
def rootFrame (scope : Scope) (checks : Bool) : Frame :=
  { scopes := [scope], checksOutput := checks, toplevel := true, rootlevel := true }

/-- The names of a template have slots in its scope. -/
theorem slot_rootFrame {alternation : Alternation} (hformed : alternation.WellFormed) {scope : Scope}
    (hlevel : scope.level = 0) (checks : Bool) {name : String} (hname : name ∈ alternation.names) :
    (rootFrame scope checks).slot name = ⟨0, name⟩ :=
  slotOf_eq hlevel (hformed.isName hname).1

/-- A template without blocks that does not ask for itself is compiled to the steps of its statements, which
choose a parent once and for all or not at all. -/
theorem leads_program {body : List Statement} {scope : Scope} {steps : List Step}
    (hblocks : bodyBlocks body = []) (hself : openNames ["self"] body = [])
    (hextends : bodyExtends body = chosen)
    (hscope : Scope.visitAll [] (Scope.inside []) body = scope)
    (hsteps : Leads (Calm escapes false) (Calm escapes chosen)
      (compileAll setting (rootFrame scope chosen) body) steps) :
    Leads (Calm escapes false) (Calm escapes chosen) (Template.program setting body)
      ⟨setting.name, ⟨none, none, scope.plan, steps⟩, if chosen then .always else .none, []⟩ := by
  unfold Template.program
  simp only [hblocks, hself, hextends, hscope, repeatedBlock?, List.foldl_nil]
  have hrows : (rootFrame scope chosen).indent ≤ Listing.mostIndented := Nat.le_of_ble_eq_true rfl
  -- The rows before the steps, the steps, and the rows after them.
  refine Leads.bind (yields_extend fun _ => 2) (Leads.bind (yields_extend fun _ => 7) ?_)
  refine Leads.bind (yields_write hrows _) (Leads.bind (yields_write hrows _) ?_)
  refine Leads.bind ((yields_write hrows 1).bind (Leads.pure (rootFrame scope chosen)))
    (hsteps.bind ?_)
  refine Leads.look fun progress hcalm => (yields_write hrows _).bind ?_
  -- There are no blocks, and nothing has been found to be wrong.
  refine Leads.bind (Leads.pure []) (Leads.look fun last hlast => ?_)
  simp only [Listing.fault?, hlast.found, hcalm.certain]
  cases chosen
  all_goals exact Leads.pure _

/-- The program that compiling leads to. -/
theorem compileTemplate_of_leads {body : List Statement} {program : Program}
    (hprogram : Leads (Calm setting.escapes false) (Calm setting.escapes chosen)
      (Template.program setting body) program) : compileTemplate setting body = .ok program := by
  obtain ⟨after, hafter, -⟩ := hprogram { escapes := setting.escapes } ⟨rfl, rfl, rfl, rfl, rfl⟩
  exact congrArg (fun result => result.bind fun pair => .ok pair.1) hafter

/-- What a template is compiled to. -/
theorem compileTemplate_body {alternation : Alternation} (hformed : alternation.WellFormed)
    (hlater : setting.printsConstants = false) :
    ∃ plan, FillsFrom plan alternation.names ∧
      compileTemplate setting alternation.body =
        .ok ⟨setting.name, ⟨none, none, plan, alternation.steps (escapingOf setting.escapes)⟩,
          .none, []⟩ := by
  obtain ⟨hblocks, hextends, -⟩ := plain_body alternation
  have hscope := looksUp_visitAll alternation
  have hsteps : Yields setting.escapes false
      (compileAll setting
        (rootFrame (Scope.visitAll [] (Scope.inside []) alternation.body) false) alternation.body)
      (alternation.steps (escapingOf setting.escapes)) :=
    yields_compileAll hlater (Nat.le_of_ble_eq_true rfl) rfl rfl
      fun name hname => slot_rootFrame hformed hscope.level false hname
  exact ⟨_, hscope.fillsFrom fun name hname => (hformed.isName hname).1,
    compileTemplate_of_leads (leads_program hblocks (openNames_body hformed) hextends rfl hsteps)⟩

end Alternation

end TemplateWorkbench.Template
