import TemplateWorkbench.Proofs.Results
import TemplateWorkbench.Template.Compile

/-!
# Compiling under another name

A template is compiled under a name, but the name is only written down: in the program, and in what a
condition without another case says if it does not hold.  So whatever compiling objects to, it objects to
under every name, in the same words.

Terms that are compiled under two names differ in those words, but not in their brackets, and brackets are
all that is asked of a term.  So the computations go alike: they stop with one fault, or go on with one
progress and with terms of the same brackets.
-/

namespace TemplateWorkbench.Template

open Compiling

variable {α β γ : Type}

/-! ### Computations that go alike -/

namespace Compiling

/-- Whether two results are one fault, or related values and one progress. -/
inductive AlikeResults (related : α → α → Prop) :
    Except Fault (α × Progress) → Except Fault (α × Progress) → Prop
  | ok {value value' : α} (after : Progress) (hvalue : related value value') :
      AlikeResults related (.ok (value, after)) (.ok (value', after))
  | error (fault : Fault) : AlikeResults related (.error fault) (.error fault)

/-- Whether two computations come to such results from one progress. -/
def Alike (related : α → α → Prop) (first second : Compiling α) : Prop :=
  ∀ before, AlikeResults related (first.run before) (second.run before)

namespace Alike

variable {related : α → α → Prop} {others : β → β → Prop} {first second : Compiling α}

theorem same {computation : Compiling α} (hrefl : ∀ value, related value value) :
    Alike related computation computation := by
  intro before
  cases computation.run before with
  | ok result => exact .ok result.2 (hrefl result.1)
  | error fault => exact .error fault

theorem pure {value value' : α} (hvalue : related value value') :
    Alike related (Pure.pure value) (Pure.pure value') := fun before => .ok before hvalue

theorem bind {rest rest' : α → Compiling β} (hfirst : Alike related first second)
    (hrest : ∀ value value', related value value' → Alike others (rest value) (rest' value')) :
    Alike others (first >>= rest) (second >>= rest') := by
  intro before
  rw [StateT.run_bind, StateT.run_bind]
  generalize first.run before = result, second.run before = result', hfirst before = hresults
  cases hresults with
  | ok after hvalue => exact hrest _ _ hvalue after
  | error fault => exact .error fault

/-- After one and the same step. -/
theorem after (step : Compiling α) {rest rest' : α → Compiling β}
    (hrest : ∀ value, Alike others (rest value) (rest' value)) :
    Alike others (step >>= rest) (step >>= rest') :=
  (same (fun _ => rfl)).bind fun value _ (hvalue : value = _) => hvalue ▸ hrest value

/-- What does not ask for a value is the same after both. -/
theorem bind_const (hfirst : Alike related first second) (rest : Compiling γ) :
    (first >>= fun _ => rest) = (second >>= fun _ => rest) := by
  refine StateT.ext fun before => ?_
  rw [StateT.run_bind, StateT.run_bind]
  generalize first.run before = result, second.run before = result', hfirst before = hresults
  cases hresults <;> rfl

/-- Computations that nothing can tell apart but by their values. -/
theorem of_bind_const (hsame : ∀ rest : Compiling Unit,
    (first >>= fun _ => rest) = (second >>= fun _ => rest)) : Alike (fun _ _ => True) first second := by
  intro before
  have hdone := congrArg (fun computation => StateT.run computation before) (hsame (Pure.pure ()))
  simp only [StateT.run_bind] at hdone
  generalize first.run before = result, second.run before = result' at hdone
  match result, result' with
  | .error fault, .error _ =>
      cases hdone
      exact .error fault
  | .ok (_, after), .ok (_, after') =>
      obtain rfl : after = after' := congrArg Prod.snd (Except.ok.inj hdone)
      exact .ok after trivial

theorem error?_eq (hfirst : Alike related first second) (before : Progress) :
    Results.error? (first.run before) = Results.error? (second.run before) := by
  generalize first.run before = result, second.run before = result', hfirst before = hresults
  cases hresults <;> rfl

end Alike

end Compiling

/-! ### Terms -/

/-- The setting with another name. -/
def Setting.renamed (setting : Setting) (name : String) : Setting := { setting with name }

@[simp] theorem Setting.escapes_renamed (setting : Setting) (name : String) :
    (setting.renamed name).escapes = setting.escapes := rfl

@[simp] theorem Setting.printsConstants_renamed (setting : Setting) (name : String) :
    (setting.renamed name).printsConstants = setting.printsConstants := rfl

section Brackets

theorem keywordBrackets_map (f : String → String) (keywords : List (String × Term)) :
    keywordBrackets (keywords.map fun (id, value) => (f id, value)) = keywordBrackets keywords := by
  induction keywords with
  | nil => rfl
  | cons keyword rest ih => simp only [List.map_cons, keywordBrackets, ih]

theorem pairBrackets_map (keywords : List (String × Term)) :
    pairBrackets (keywords.map fun (id, value) => (Term.const (.string id), value)) =
      keywordBrackets keywords := by
  induction keywords with
  | nil => rfl
  | cons keyword rest ih =>
      simp only [List.map_cons, pairBrackets, keywordBrackets, ih, Term.brackets, Value.brackets,
        Nat.zero_max]

/-- What is handed over together has the brackets that what it is made of has. -/
theorem brackets_handedTogether {keywords keywords' : List (String × Term)} {more more' : Option Term}
    (hkeywords : keywordBrackets keywords = keywordBrackets keywords')
    (hmore : more.map Term.brackets = more'.map Term.brackets) :
    (handedTogether keywords more).brackets = (handedTogether keywords' more').brackets := by
  cases more <;> cases more' <;> simp only [Option.map_none, Option.map_some, reduceCtorEq] at hmore
  · simp only [handedTogether, Term.brackets, pairBrackets_map, hkeywords]
  · simp only [handedTogether, Term.brackets, TermArguments.brackets, allBrackets, anyBrackets,
      pairBrackets_map, hkeywords, Option.some.inj hmore]

theorem anyBrackets_eq {first second : Option Term}
    (hsame : first.map Term.brackets = second.map Term.brackets) :
    anyBrackets first = anyBrackets second ∧ caseBrackets first = caseBrackets second := by
  cases first <;> cases second <;> simp_all [anyBrackets, caseBrackets]

end Brackets

namespace Setting

variable (setting : Setting) (name : String)

mutual

/-- The term of an expression under another name. -/
theorem alike_term (frame : Frame) : (expr : Expr) →
    Alike (fun first second => first.brackets = second.brackets)
      (term (setting.renamed name) frame expr) (term setting frame expr)
  | .const _ _ | .data _ _ | .name _ _ _ | .namespaceRef _ _ _ => by
      unfold term
      exact .same fun _ => rfl
  | .tuple _ items _ | .list _ items => by
      unfold term
      refine (alike_terms frame items).bind fun _ _ hitems => .pure ?_
      simp only [Term.brackets, hitems]
  | .concat _ items => by
      unfold term
      refine .after _ fun how => (alike_terms frame items).bind fun _ _ hitems => .pure ?_
      simp only [Term.brackets, hitems]
  | .dict _ entries => by
      unfold term
      refine (alike_entryTerms frame entries).bind fun _ _ hentries => .pure ?_
      simp only [Term.brackets, hentries]
  | .conditional _ test whenTrue whenFalse => by
      -- The term keeps what is said of a missing case, and only there the name is written.
      unfold term
      refine (alike_term _ whenTrue).bind fun _ _ htrue => ?_
      refine (alike_term _ test).bind fun _ _ htest => ?_
      refine (alike_optionalTerm _ whenFalse).bind fun _ _ hfalse => .pure ?_
      simp only [Term.brackets, htrue, htest, (anyBrackets_eq hfalse).2]
  | .binary _ _ left right => by
      unfold term
      refine (alike_term frame left).bind fun _ _ hleft => ?_
      refine (alike_term frame right).bind fun _ _ hright => .pure ?_
      simp only [Term.brackets, hleft, hright]
  | .unary _ _ operand | .getattr _ operand _ => by
      unfold term
      refine (alike_term frame operand).bind fun _ _ hoperand => .pure ?_
      simp only [Term.brackets, hoperand]
  | .compare _ first others => by
      unfold term
      refine (alike_term frame first).bind fun _ _ hfirst => ?_
      refine (alike_comparedTerms frame others).bind fun _ _ hothers => .pure ?_
      simp only [Term.brackets, hfirst, hothers]
  | .slice _ start stop step => by
      unfold term
      refine .after _ fun _ => (alike_optionalTerm frame start).bind fun _ _ hstart => ?_
      refine (alike_optionalTerm frame stop).bind fun _ _ hstop => ?_
      refine (alike_optionalTerm frame step).bind fun _ _ hstep => .pure ?_
      simp only [Term.brackets, (anyBrackets_eq hstart).1, (anyBrackets_eq hstop).1,
        (anyBrackets_eq hstep).1]
  | .call _ function arguments => by
      unfold term
      refine .after _ fun _ => (alike_term frame function).bind fun _ _ hfunction => ?_
      refine (alike_argumentTerms frame arguments).bind fun _ _ harguments => .pure ?_
      simp only [Term.brackets, hfunction, harguments]
  | .filter line subject id arguments => by
      unfold term
      split
      · exact .same fun _ => rfl
      · refine .after _ fun _ => (alike_subjectTerm frame subject).bind fun _ _ hsubject => ?_
        refine (alike_argumentTerms frame arguments).bind fun _ _ harguments => .pure ?_
        simp only [Term.brackets, hsubject, harguments]
  | .test line subject id arguments => by
      unfold term
      split
      · exact .same fun _ => rfl
      · refine .after _ fun _ => (alike_term frame subject).bind fun _ _ hsubject => ?_
        refine (alike_argumentTerms frame arguments).bind fun _ _ harguments => .pure ?_
        simp only [Term.brackets, hsubject, harguments]
  | .getitem _ object index => by
      have hobject := alike_term frame object
      have hindex := alike_term frame index
      cases index with
      | slice _ start stop step =>
          have hstart := alike_optionalTerm frame start
          have hstop := alike_optionalTerm frame stop
          have hstep := alike_optionalTerm frame step
          unfold term
          refine hobject.bind fun _ _ hobject => hstart.bind fun _ _ hstart => ?_
          refine hstop.bind fun _ _ hstop => hstep.bind fun _ _ hstep => .pure ?_
          simp only [Term.brackets, hobject, (anyBrackets_eq hstart).1, (anyBrackets_eq hstop).1,
            (anyBrackets_eq hstep).1]
      | _ =>
          unfold term
          refine hobject.bind fun _ _ hobject => hindex.bind fun _ _ hindex => .pure ?_
          simp only [Term.brackets, hobject, hindex]

/-- The terms of arguments under another name. -/
theorem alike_argumentTerms (frame : Frame) : (arguments : Arguments) →
    Alike (fun first second => first.brackets = second.brackets)
      (argumentTerms (setting.renamed name) frame arguments) (argumentTerms setting frame arguments)
  | .mk positional keywords more moreKeywords => by
      unfold argumentTerms
      refine (alike_terms frame positional).bind fun _ _ hpositional => ?_
      refine (alike_keywordTerms frame keywords).bind fun _ _ hkeywords => ?_
      refine (alike_optionalTerm frame more).bind fun _ _ hmore => ?_
      refine (alike_optionalTerm frame moreKeywords).bind fun _ _ hmoreKeywords => ?_
      -- Keywords are handed over together if one of them is a word that no keyword can be.
      split
      · refine .pure ?_
        simp only [TermArguments.brackets, hpositional, (anyBrackets_eq hmore).1, anyBrackets,
          brackets_handedTogether hkeywords hmoreKeywords, keywordBrackets]
      · refine .pure ?_
        simp only [TermArguments.brackets, hpositional, (anyBrackets_eq hmore).1,
          (anyBrackets_eq hmoreKeywords).1, keywordBrackets_map, hkeywords]

theorem alike_terms (frame : Frame) : (exprs : List Expr) →
    Alike (fun first second => allBrackets first = allBrackets second)
      (terms (setting.renamed name) frame exprs) (terms setting frame exprs)
  | [] => by
      unfold terms
      exact .same fun _ => rfl
  | expr :: rest => by
      unfold terms
      refine (alike_term frame expr).bind fun _ _ hexpr => ?_
      refine (alike_terms frame rest).bind fun _ _ hrest => .pure ?_
      simp only [allBrackets, hexpr, hrest]

theorem alike_optionalTerm (frame : Frame) : (expr? : Option Expr) →
    Alike (fun first second => first.map Term.brackets = second.map Term.brackets)
      (optionalTerm (setting.renamed name) frame expr?) (optionalTerm setting frame expr?)
  | none => by
      unfold optionalTerm
      exact .same fun _ => rfl
  | some expr => by
      unfold optionalTerm
      refine (alike_term frame expr).bind fun _ _ hexpr => .pure ?_
      simp only [Option.map_some, hexpr]

/-- The term of what a filter is applied to, under another name. -/
theorem alike_subjectTerm (frame : Frame) : (subject? : Option Expr) →
    Alike (fun first second => first.brackets = second.brackets)
      (subjectTerm (setting.renamed name) frame subject?) (subjectTerm setting frame subject?)
  | none => by
      unfold subjectTerm
      exact .same fun _ => rfl
  | some expr => by
      unfold subjectTerm
      exact alike_term frame expr

theorem alike_entryTerms (frame : Frame) : (entries : List (Expr × Expr)) →
    Alike (fun first second => pairBrackets first = pairBrackets second)
      (entryTerms (setting.renamed name) frame entries) (entryTerms setting frame entries)
  | [] => by
      unfold entryTerms
      exact .same fun _ => rfl
  | (key, value) :: rest => by
      unfold entryTerms
      refine (alike_term frame key).bind fun _ _ hkey => ?_
      refine (alike_term frame value).bind fun _ _ hvalue => ?_
      refine (alike_entryTerms frame rest).bind fun _ _ hrest => .pure ?_
      simp only [pairBrackets, hkey, hvalue, hrest]

theorem alike_keywordTerms (frame : Frame) : (keywords : List (String × Expr)) →
    Alike (fun first second => keywordBrackets first = keywordBrackets second)
      (keywordTerms (setting.renamed name) frame keywords) (keywordTerms setting frame keywords)
  | [] => by
      unfold keywordTerms
      exact .same fun _ => rfl
  | (_, value) :: rest => by
      unfold keywordTerms
      refine (alike_term frame value).bind fun _ _ hvalue => ?_
      refine (alike_keywordTerms frame rest).bind fun _ _ hrest => .pure ?_
      simp only [keywordBrackets, hvalue, hrest]

theorem alike_comparedTerms (frame : Frame) : (others : List (CompareOp × Expr)) →
    Alike (fun first second => comparedBrackets first = comparedBrackets second)
      (comparedTerms (setting.renamed name) frame others) (comparedTerms setting frame others)
  | [] => by
      unfold comparedTerms
      exact .same fun _ => rfl
  | (_, operand) :: rest => by
      unfold comparedTerms
      refine (alike_term frame operand).bind fun _ _ hoperand => ?_
      refine (alike_comparedTerms frame rest).bind fun _ _ hrest => .pure ?_
      simp only [comparedBrackets, hoperand, hrest]

end

/-! ### Expressions -/

/-- Evaluating constants has nothing to do with the name. -/
theorem evaluate_renamed (computation : Folding → Run α) :
    evaluate (setting.renamed name) computation = evaluate setting computation := rfl

theorem alike_expression (frame : Frame) (outside : Nat) (expr : Expr) :
    Alike (fun _ _ => True) (expression (setting.renamed name) frame outside expr)
      (expression setting frame outside expr) := by
  have hrest (prepared : Expr) : Alike (fun _ _ => True)
      (do
        let result ← term (setting.renamed name) frame prepared
        if Listing.mostBrackets < outside + result.brackets then find .deepBrackets
        pure result)
      (do
        let result ← term setting frame prepared
        if Listing.mostBrackets < outside + result.brackets then find .deepBrackets
        pure result) := by
    refine (setting.alike_term name frame prepared).bind fun value value' hbrackets => ?_
    rw [hbrackets]
    split
    · exact .after _ fun _ => .pure trivial
    · exact .pure trivial
  unfold expression
  refine .after _ fun progress => ?_
  split
  · exact hrest expr
  · exact .after (evaluate setting fun folding => folding.prepare expr) hrest

/-- After an expression things go on as under the other name. -/
theorem expression_bind_renamed (frame : Frame) (outside : Nat) (expr : Expr) (rest : Compiling γ) :
    (expression (setting.renamed name) frame outside expr >>= fun _ => rest) =
      (expression setting frame outside expr >>= fun _ => rest) :=
  (setting.alike_expression name frame outside expr).bind_const rest

theorem printedNow?_renamed (expr : Expr) :
    printedNow? (setting.renamed name) expr = printedNow? setting expr := rfl

theorem printedParts_renamed (frame : Frame) (parts : List Expr) :
    printedParts (setting.renamed name) frame parts = printedParts setting frame parts := by
  induction parts with
  | nil => rfl
  | cons part rest ih => simp only [printedParts, printedNow?_renamed, ih]

theorem outputParts_bind_renamed (frame : Frame) (outside : Nat) (parts : List (Expr × Option String))
    (rest : Compiling γ) :
    (outputParts (setting.renamed name) frame outside parts >>= fun _ => rest) =
      (outputParts setting frame outside parts >>= fun _ => rest) := by
  induction parts generalizing rest with
  | nil => rfl
  | cons part others ih =>
      rcases part with ⟨expr, _ | text⟩
      · simp only [outputParts, bind_assoc, pure_bind, ih, expression_bind_renamed,
          printsConstants_renamed]
        rfl
      · simp only [outputParts, bind_assoc, pure_bind, ih]

/-- What is printed under another name is followed by the same. -/
theorem printed_bind_renamed (frame : Frame) (parts : List Expr) (rest : Compiling γ) :
    (printed (setting.renamed name) frame parts >>= fun _ => rest) =
      (printed setting frame parts >>= fun _ => rest) := by
  unfold printed
  cases frame.keeps <;>
    simp only [printedParts_renamed, bind_assoc, pure_bind, outputParts_bind_renamed, Bool.false_eq_true,
      if_false, if_true]

theorem parameters_bind_renamed (frame : Frame) (params : List (Expr × Option Expr))
    (rest : Compiling γ) : (parameters (setting.renamed name) frame params >>= fun _ => rest) =
      (parameters setting frame params >>= fun _ => rest) := by
  induction params generalizing rest with
  | nil => rfl
  | cons param others ih =>
      rcases param with ⟨param, _ | default⟩ <;>
        simp only [parameters, bind_assoc, pure_bind, ih, expression_bind_renamed]

theorem filterTerm_bind_renamed (frame : Frame) (filter : Option Expr) (rest : Compiling γ) :
    (filterTerm (setting.renamed name) frame filter >>= fun _ => rest) =
      (filterTerm setting frame filter >>= fun _ => rest) := by
  cases filter with
  | none => rfl
  | some filter => exact setting.expression_bind_renamed name frame 1 filter rest

/-! ### Statements -/

/-- A macro is followed by the same, if its body is. -/
theorem compileMacro_bind_renamed (frame : Frame) (line : Nat) (id : Option String)
    (params defaults : List Expr) (body : List Statement)
    {compileWith compileWith' : Frame → Compiling (List Step)}
    (hbody : ∀ (inner : Frame) (rest : Compiling γ),
      (compileWith inner >>= fun _ => rest) = (compileWith' inner >>= fun _ => rest))
    (rest : Compiling γ) :
    (compileMacro (setting.renamed name) frame line id params defaults body compileWith >>=
        fun _ => rest) =
      (compileMacro setting frame line id params defaults body compileWith' >>= fun _ => rest) := by
  simp only [compileMacro, bind_assoc, pure_bind, parameters_bind_renamed, hbody]

theorem ite_bind {condition : Prop} [Decidable condition] (first second : Compiling α)
    (rest : α → Compiling β) : (if condition then first else second) >>= rest =
      if condition then first >>= rest else second >>= rest := by
  split <;> rfl

/-- What computes values one after another is followed by the same, if each of them is. -/
theorem mapM_bind_congr {first second : α → Compiling β}
    (hsame : ∀ (item : α) (rest : Compiling γ),
      (first item >>= fun _ => rest) = (second item >>= fun _ => rest))
    (items : List α) (rest : Compiling γ) :
    (items.mapM first >>= fun _ => rest) = (items.mapM second >>= fun _ => rest) := by
  induction items generalizing rest with
  | nil => rfl
  | cons item others ih => simp only [List.mapM_cons, bind_assoc, pure_bind, ih, hsame]

/-- A loop is followed by the same, if its bodies are. -/
theorem compile_loop_bind_renamed (frame : Frame) (line : Nat) (target iter : Expr) (test : Option Expr)
    (recursive : Bool) (body orElse : List Statement)
    (hbody : ∀ (inner : Frame) (rest : Compiling γ),
      (compileAll (setting.renamed name) inner body >>= fun _ => rest) =
        (compileAll setting inner body >>= fun _ => rest))
    (horElse : ∀ (inner : Frame) (rest : Compiling γ),
      (compileAll (setting.renamed name) inner orElse >>= fun _ => rest) =
        (compileAll setting inner orElse >>= fun _ => rest))
    (rest : Bool → Compiling γ) :
    (compile (setting.renamed name) frame (.loop line target iter test recursive body orElse) >>=
        fun compiled => rest compiled.ended) =
      (compile setting frame (.loop line target iter test recursive body orElse) >>=
        fun compiled => rest compiled.ended) := by
  unfold compile
  -- The steps ask again and again whether the loop is recursive and whether it has another body.
  generalize orElse.isEmpty = lacksOther
  cases recursive <;> cases lacksOther
  all_goals
    simp only [↓reduceIte, Bool.false_eq_true, Bool.not_true, Bool.not_false, Bool.true_or,
      Bool.false_or, Bool.or_true, Bool.or_false]
    cases test
    all_goals
      simp only [bind_assoc, pure_bind, ite_bind, expression_bind_renamed, hbody, horElse]

mutual

/-- A statement is followed by the same under another name. -/
theorem compile_bind_renamed (frame : Frame) (statement : Statement) (rest : Bool → Compiling γ) :
    (compile (setting.renamed name) frame statement >>= fun compiled => rest compiled.ended) =
      (compile setting frame statement >>= fun compiled => rest compiled.ended) :=
  match statement with
  | .output _ parts => by
      unfold compile
      simp only [bind_assoc, pure_bind, ite_bind, printed_bind_renamed]
  | .assign _ _ _ | .block _ _ _ _ _ | .importAs _ _ _ _ | .importNames _ _ _ _ | .extend _ _
  | .includeFrom _ _ _ _ => by
      unfold compile
      simp only [bind_assoc, pure_bind, ite_bind, expression_bind_renamed]
  | .branch (.mk _ _ body) others orElse => by
      have hbody (inner : Frame) (rest : Compiling γ) := compileAll_bind_renamed inner body rest
      have hothers (rest : Compiling γ) := compileClauses_bind_renamed frame.softened others rest
      have horElse (inner : Frame) (rest : Compiling γ) := compileAll_bind_renamed inner orElse rest
      unfold compile
      simp only [bind_assoc, pure_bind, ite_bind, expression_bind_renamed, hbody, hothers, horElse]
  | .loop line target iter test recursive body orElse =>
      setting.compile_loop_bind_renamed name frame line target iter test recursive body orElse
        (fun inner rest => compileAll_bind_renamed inner body rest)
        (fun inner rest => compileAll_bind_renamed inner orElse rest) rest
  | .bind _ _ values body => by
      have hbody (inner : Frame) (rest : Compiling γ) := compileAll_bind_renamed inner body rest
      -- The values are compiled one after another, so the name is carried through the traversal.
      have hvalues (inner : Frame) (rest : Compiling γ) :
          (values.mapM (fun value => do
            write inner 1
            expression (setting.renamed name) frame 0 value) >>= fun _ => rest) =
          (values.mapM (fun value => do
            write inner 1
            expression setting frame 0 value) >>= fun _ => rest) :=
        mapM_bind_congr (fun value rest => by simp only [bind_assoc, expression_bind_renamed]) values rest
      unfold compile
      simp only [bind_assoc, pure_bind, hvalues, hbody]
  | .assignBlock _ _ _ body | .filterBlock _ _ body => by
      have hbody (inner : Frame) (rest : Compiling γ) := compileAll_bind_renamed inner body rest
      unfold compile
      simp only [bind_assoc, pure_bind, filterTerm_bind_renamed, expression_bind_renamed, hbody]
  | .escaping _ _ body => by
      have hbody (inner : Frame) (rest : Compiling γ) := compileAll_bind_renamed inner body rest
      unfold compile
      simp only [bind_assoc, pure_bind, expression_bind_renamed, evaluate_renamed, hbody]
  | .defineMacro line id params defaults body => by
      have hplan (rest : Compiling γ) := setting.compileMacro_bind_renamed name frame line (some id)
        params defaults body (fun inner rest => compileAll_bind_renamed inner body rest) rest
      unfold compile
      simp only [bind_assoc, pure_bind, hplan]
  | .callBlock line call params defaults body => by
      have hplan (rest : Compiling γ) := setting.compileMacro_bind_renamed name frame line none
        params defaults body (fun inner rest => compileAll_bind_renamed inner body rest) rest
      unfold compile
      cases call <;> simp only [bind_assoc, pure_bind, expression_bind_renamed, hplan]

theorem compileAll_bind_renamed (frame : Frame) (statements : List Statement) (rest : Compiling γ) :
    (compileAll (setting.renamed name) frame statements >>= fun _ => rest) =
      (compileAll setting frame statements >>= fun _ => rest) :=
  match statements with
  | [] => by
      unfold compileAll
      rfl
  | statement :: others => by
      have hothers := compileAll_bind_renamed frame others rest
      unfold compileAll
      simp only [bind_assoc, pure_bind, ite_bind, hothers]
      exact compile_bind_renamed frame statement fun ended =>
        if ended then rest else compileAll setting frame others >>= fun _ => rest

theorem compileClauses_bind_renamed (frame : Frame) (clauses : List Clause) (rest : Compiling γ) :
    (compileClauses (setting.renamed name) frame clauses >>= fun _ => rest) =
      (compileClauses setting frame clauses >>= fun _ => rest) :=
  match clauses with
  | [] => by
      unfold compileClauses
      rfl
  | .mk _ _ body :: others => by
      have hbody (inner : Frame) (rest : Compiling γ) := compileAll_bind_renamed inner body rest
      have hothers (rest : Compiling γ) := compileClauses_bind_renamed frame others rest
      unfold compileClauses
      simp only [bind_assoc, pure_bind, expression_bind_renamed, hbody, hothers]

end

/-! ### Templates -/

theorem blockRoutine_bind_renamed (block : BlockSite) (rest : Compiling γ) :
    (blockRoutine (setting.renamed name) block >>= fun _ => rest) =
      (blockRoutine setting block >>= fun _ => rest) := by
  simp only [blockRoutine, bind_assoc, pure_bind, compileAll_bind_renamed]

/-- A program goes as under another name. -/
theorem alike_program (body : List Statement) :
    Alike (fun _ _ => True) (program (setting.renamed name) body) (program setting body) := by
  have hroutines := Alike.of_bind_const fun rest =>
    mapM_bind_congr (setting.blockRoutine_bind_renamed name) (bodyBlocks body) rest
  unfold program
  dsimp only
  split
  · exact .same fun _ => trivial
  · -- The rows of the head are the same; what may differ are the values of the steps and of the routines.
    refine .after _ fun _ => .after _ fun _ => .after _ fun _ => .after _ fun _ => .after _ fun frame => ?_
    refine (Alike.of_bind_const (compileAll_bind_renamed setting name frame body)).bind fun _ _ _ => ?_
    refine .after _ fun _ => .after _ fun _ => hroutines.bind fun _ _ _ => .after _ fun progress => ?_
    split
    · exact .same fun _ => trivial
    · exact .pure trivial

end Setting

/-- Compiling stops with the same fault under another name. -/
theorem error?_compileTemplate_renamed (setting : Setting) (name : String) (body : List Statement) :
    Results.error? (compileTemplate (setting.renamed name) body) =
      Results.error? (compileTemplate setting body) := by
  have hsame := (setting.alike_program name body).error?_eq { escapes := setting.escapes }
  simpa only [compileTemplate, Results.error?_bind_pure, Setting.escapes_renamed] using hsame

end TemplateWorkbench.Template
