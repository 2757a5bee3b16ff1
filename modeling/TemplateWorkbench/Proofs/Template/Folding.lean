import Mathlib
import TemplateWorkbench.Template.Compile

/-!
# What evaluating constants objects to

A constant expression that cannot be evaluated waits for the rendering, and with it waits the fault.  Four
things are not held back: the truth value of a constant, its use as a key of a dictionary, the entry under
that key, and the text of a constant that is joined to others.  This file goes through the evaluation of
expressions, case by case, and shows that there is nothing else.
-/

namespace TemplateWorkbench.Template

open Std.Do

set_option mvcgen.warning false

variable {α : Type}

/-! ### Computations that stop -/

/-- Whether a computation stops only with faults of which something holds. -/
abbrev Run.StopsWith (objects : Fault → Prop) (computation : Run α) : Prop :=
  ⦃⌜True⌝⦄ computation ⦃post⟨fun _ => ⌜True⌝, fun fault => ⌜objects fault⌝⟩⦄

/-- What holds after a computation holds of its result in the memory that it leaves. -/
theorem Run.wp_eq (computation : Run α) (holds : PostCond α (.except Fault (.arg Memory .pure)))
    (before : Memory) :
    wp⟦computation⟧ holds before = match computation.run.run before with
      | (.ok value, after) => holds.1 value after
      | (.error fault, after) => holds.2.1 fault after := by
  have hrun : wp⟦computation⟧ holds before =
      wp⟦(show Run α from fun _ => computation.run.run before)⟧ holds before := rfl
  rw [hrun]
  rcases computation.run.run before with ⟨_ | _, after⟩ <;> rfl

theorem Run.stopsWith_iff {objects : Fault → Prop} {computation : Run α} :
    Run.StopsWith objects computation ↔
      ∀ before fault after, computation.run.run before = (.error fault, after) → objects fault := by
  constructor
  · intro hstops before fault after hrun
    have hholds := hstops before trivial
    rw [Run.wp_eq, hrun] at hholds
    exact hholds
  · intro hobjects before _
    rw [Run.wp_eq]
    rcases hrun : computation.run.run before with ⟨fault | value, after⟩
    · exact hobjects before fault after hrun
    · trivial

theorem Run.stopsWith_pure {objects : Fault → Prop} (value : α) :
    Run.StopsWith objects (pure value) := by
  mvcgen

theorem Run.StopsWith.bind {β : Type} {objects : Fault → Prop} {first : Run α} {next : α → Run β}
    (hfirst : Run.StopsWith objects first) (hnext : ∀ value, Run.StopsWith objects (next value)) :
    Run.StopsWith objects (first >>= next) := by
  mvcgen [hfirst, hnext]

/-- Where a fault of evaluating constants comes from. -/
inductive ConstantFault (services : Services) : Fault → Prop where
  | truth {value : Value} {before after : Memory} {fault : Fault}
      (htruth : (services.truth value).run.run before = (.error fault, after)) :
      ConstantFault services fault
  | key {value : Value} {fault : Fault} (hkey : value.asKey = .error fault) :
      ConstantFault services fault
  | entry {key value : Value} {entries : List (Value × Value)} {fault : Fault}
      (hentry : Value.putEntry key value entries = .error fault) : ConstantFault services fault
  | text {value : Value} {before after : Memory} {fault : Fault}
      (htext : (services.printed value).run.run before = (.error fault, after)) :
      ConstantFault services fault

namespace Folding

variable (folding : Folding)

/-- Whether a computation stops only with faults of evaluating constants. -/
abbrev Stops (computation : Run α) : Prop :=
  Run.StopsWith (ConstantFault folding.services) computation

@[spec]
theorem stops_truth (value : Value) : folding.Stops (folding.services.truth value) :=
  Run.stopsWith_iff.mpr fun _ _ _ htruth => .truth htruth

@[spec]
theorem stops_printed (value : Value) : folding.Stops (folding.services.printed value) :=
  Run.stopsWith_iff.mpr fun _ _ _ htext => .text htext

theorem stops_lift {result : Except Fault α}
    (hobjects : ∀ fault, result = .error fault → ConstantFault folding.services fault) :
    folding.Stops (liftM result) := by
  refine Run.stopsWith_iff.mpr fun before fault after hrun => hobjects fault ?_
  cases result with
  | ok value => cases hrun
  | error other =>
      cases hrun
      rfl

@[spec]
theorem stops_asKey (value : Value) : folding.Stops (liftM value.asKey) :=
  folding.stops_lift fun _ => .key

@[spec]
theorem stops_putEntry (key value : Value) (entries : List (Value × Value)) :
    folding.Stops (liftM (Value.putEntry key value entries)) :=
  folding.stops_lift fun _ => .entry

/-- What waits does not stop. -/
@[spec]
theorem stops_waiting (computation : Run (Option α)) : folding.Stops computation.waiting := by
  refine Run.stopsWith_iff.mpr fun before fault after hrun => ?_
  have hwaiting : computation.waiting.run.run before =
      match computation.run.run before with
      | (.ok value?, after) => (.ok value?, after)
      | (.error _, after) => (.ok none, after) := by
    rw [Run.waiting, ExceptT.run_tryCatch, StateT.run_bind]
    rcases computation.run.run before with ⟨_ | _, after⟩ <;> rfl
  rw [hwaiting] at hrun
  split at hrun <;> cases hrun

/-! ### Evaluating -/

mutual

/-- Evaluating an expression. -/
theorem stops_constantOf : (expr : Expr) → folding.Stops (folding.constantOf expr)
  | .const _ _ | .data _ _ | .name _ _ _ | .namespaceRef _ _ _ | .slice _ _ _ _ | .call _ _ _
  | .filter _ none _ _ => by
      unfold constantOf
      mvcgen
  | .unary _ _ _ | .getattr _ _ _ => by
      unfold constantOf
      mvcgen
  | .getitem _ _ index => by
      unfold constantOf
      cases index <;> exact folding.stops_waiting _
  | .tuple _ items _ | .list _ items => by
      have hitems := stops_constantsOf items
      unfold constantOf
      mvcgen [hitems]
  | .dict _ entries => by
      have hentries := stops_entriesOf [] entries
      unfold constantOf
      mvcgen [hentries]
  | .conditional _ test whenTrue whenFalse => by
      have htest := stops_constantOf test
      have htrue := stops_constantOf whenTrue
      have hfalse := stops_optionalOf whenFalse
      unfold constantOf
      mvcgen [htest, htrue, hfalse]
  | .binary _ op left right => by
      have hleft := stops_constantOf left
      have hright := stops_constantOf right
      cases op with
      | and | or =>
          unfold constantOf
          mvcgen [hleft, hright]
      | _ => exact folding.stops_waiting _
  | .compare _ first others => by
      have hfirst := stops_constantOf first
      unfold constantOf
      mvcgen [hfirst]
  | .concat _ parts => by
      have hparts := stops_textsOf parts
      unfold constantOf
      mvcgen [hparts]
  | .filter _ (some subject) id arguments => by
      have hsubject := stops_constantOf subject
      have harguments := stops_argumentsOf arguments
      unfold constantOf
      mvcgen [hsubject, harguments]
  | .test _ subject id arguments => by
      have hsubject := stops_constantOf subject
      have harguments := stops_argumentsOf arguments
      unfold constantOf
      mvcgen [hsubject, harguments]

/-- Evaluating arguments. -/
theorem stops_argumentsOf : (arguments : Arguments) → folding.Stops (folding.argumentsOf arguments)
  | .mk positional keywords more moreKeywords => by
      have hpositional := stops_constantsOf positional
      have hkeywords := stops_keywordsOf keywords
      -- What follows can only be looked into once it is known which parts there are.
      cases more <;> cases moreKeywords
      all_goals
        refine Run.StopsWith.bind hpositional fun positional? => ?_
        cases positional? with
        | none => exact Run.stopsWith_pure none
        | some positional =>
            refine Run.StopsWith.bind hkeywords fun keywords? => ?_
            cases keywords? with
            | none => exact Run.stopsWith_pure none
            | some keywords => exact folding.stops_waiting _

/-- Evaluating expressions one after another. -/
theorem stops_constantsOf : (exprs : List Expr) → folding.Stops (folding.constantsOf exprs)
  | [] => by
      unfold constantsOf
      mvcgen
  | expr :: rest => by
      have hexpr := stops_constantOf expr
      have hrest := stops_constantsOf rest
      unfold constantsOf
      mvcgen [hexpr, hrest]

/-- Evaluating an expression that may be left out. -/
theorem stops_optionalOf : (expr? : Option Expr) → folding.Stops (folding.optionalOf expr?)
  | none => by
      unfold optionalOf
      mvcgen
  | some expr => stops_constantOf expr

/-- Evaluating the entries of a dictionary. -/
theorem stops_entriesOf (collected : List (Value × Value)) :
    (entries : List (Expr × Expr)) → folding.Stops (folding.entriesOf collected entries)
  | [] => by
      unfold entriesOf
      mvcgen
  | (key, value) :: rest => by
      have hkey := stops_constantOf key
      have hvalue := stops_constantOf value
      have hrest (collected : List (Value × Value)) := stops_entriesOf collected rest
      unfold entriesOf
      mvcgen [hkey, hvalue, hrest]

/-- Evaluating keywords. -/
theorem stops_keywordsOf :
    (keywords : List (String × Expr)) → folding.Stops (folding.keywordsOf keywords)
  | [] => by
      unfold keywordsOf
      mvcgen
  | (_, expr) :: rest => by
      have hexpr := stops_constantOf expr
      have hrest := stops_keywordsOf rest
      unfold keywordsOf
      mvcgen [hexpr, hrest]

/-- Evaluating texts that are joined. -/
theorem stops_textsOf : (exprs : List Expr) → folding.Stops (folding.textsOf exprs)
  | [] => by
      unfold textsOf
      mvcgen
  | expr :: rest => by
      have hexpr := stops_constantOf expr
      have hrest := stops_textsOf rest
      unfold textsOf
      mvcgen [hexpr, hrest]

end

/-! ### Replacing constant parts -/

@[spec]
theorem stops_settle (expr : Expr) : folding.Stops (folding.settle expr) := by
  have hexpr := folding.stops_constantOf expr
  unfold settle
  mvcgen [hexpr]

mutual

/-- Replacing the constant parts of an expression. -/
theorem stops_fold : (expr : Expr) → folding.Stops (folding.fold expr)
  | .const _ _ | .data _ _ | .name _ _ _ | .namespaceRef _ _ _ => by
      unfold fold
      mvcgen
  | .tuple _ items _ | .list _ items | .concat _ items => by
      have hitems := stops_foldAll items
      unfold fold
      mvcgen [hitems]
  | .dict _ entries => by
      have hentries := stops_foldEntries entries
      unfold fold
      mvcgen [hentries]
  | .conditional _ test whenTrue whenFalse => by
      have htest := stops_fold test
      have htrue := stops_fold whenTrue
      have hfalse := stops_foldOptional whenFalse
      unfold fold
      mvcgen [htest, htrue, hfalse]
  | .binary _ _ left right | .getitem _ left right => by
      have hleft := stops_fold left
      have hright := stops_fold right
      unfold fold
      mvcgen [hleft, hright]
  | .unary _ _ operand | .getattr _ operand _ => by
      have hoperand := stops_fold operand
      unfold fold
      mvcgen [hoperand]
  | .compare _ first others => by
      have hfirst := stops_fold first
      have hothers := stops_foldCompared others
      unfold fold
      mvcgen [hfirst, hothers]
  | .slice _ start stop step => by
      have hstart := stops_foldOptional start
      have hstop := stops_foldOptional stop
      have hstep := stops_foldOptional step
      unfold fold
      mvcgen [hstart, hstop, hstep]
  | .call _ subject arguments | .test _ subject _ arguments => by
      have hsubject := stops_fold subject
      have harguments := stops_foldArguments arguments
      unfold fold
      mvcgen [hsubject, harguments]
  | .filter _ subject _ arguments => by
      have hsubject := stops_foldOptional subject
      have harguments := stops_foldArguments arguments
      unfold fold
      mvcgen [hsubject, harguments]

theorem stops_foldArguments :
    (arguments : Arguments) → folding.Stops (folding.foldArguments arguments)
  | .mk positional keywords more moreKeywords => by
      have hpositional := stops_foldAll positional
      have hkeywords := stops_foldKeywords keywords
      have hmore := stops_foldOptional more
      have hmoreKeywords := stops_foldOptional moreKeywords
      unfold foldArguments
      mvcgen [hpositional, hkeywords, hmore, hmoreKeywords]

theorem stops_foldAll : (exprs : List Expr) → folding.Stops (folding.foldAll exprs)
  | [] => by
      unfold foldAll
      mvcgen
  | expr :: rest => by
      have hexpr := stops_fold expr
      have hrest := stops_foldAll rest
      unfold foldAll
      mvcgen [hexpr, hrest]

theorem stops_foldOptional : (expr? : Option Expr) → folding.Stops (folding.foldOptional expr?)
  | none => by
      unfold foldOptional
      mvcgen
  | some expr => by
      have hexpr := stops_fold expr
      unfold foldOptional
      mvcgen [hexpr]

theorem stops_foldEntries :
    (entries : List (Expr × Expr)) → folding.Stops (folding.foldEntries entries)
  | [] => by
      unfold foldEntries
      mvcgen
  | (key, value) :: rest => by
      have hkey := stops_fold key
      have hvalue := stops_fold value
      have hrest := stops_foldEntries rest
      unfold foldEntries
      mvcgen [hkey, hvalue, hrest]

theorem stops_foldKeywords :
    (keywords : List (String × Expr)) → folding.Stops (folding.foldKeywords keywords)
  | [] => by
      unfold foldKeywords
      mvcgen
  | (_, value) :: rest => by
      have hvalue := stops_fold value
      have hrest := stops_foldKeywords rest
      unfold foldKeywords
      mvcgen [hvalue, hrest]

theorem stops_foldCompared :
    (others : List (CompareOp × Expr)) → folding.Stops (folding.foldCompared others)
  | [] => by
      unfold foldCompared
      mvcgen
  | (_, operand) :: rest => by
      have hoperand := stops_fold operand
      have hrest := stops_foldCompared rest
      unfold foldCompared
      mvcgen [hoperand, hrest]

end

mutual

/-- Preparing an expression for compiling. -/
theorem stops_prepare : (expr : Expr) → folding.Stops (folding.prepare expr)
  | .tuple _ items _ | .list _ items => by
      have hitems := stops_prepareAll items
      unfold prepare
      mvcgen [hitems]
  | .dict _ entries => by
      have hentries := stops_prepareEntries entries
      unfold prepare
      mvcgen [hentries]
  | .const _ _ | .data _ _ | .name _ _ _ | .namespaceRef _ _ _ | .conditional _ _ _ _
  | .binary _ _ _ _ | .unary _ _ _ | .compare _ _ _ | .concat _ _ | .getattr _ _ _
  | .getitem _ _ _ | .slice _ _ _ _ | .call _ _ _ | .filter _ _ _ _ | .test _ _ _ _ =>
      folding.stops_fold _

theorem stops_prepareAll : (exprs : List Expr) → folding.Stops (folding.prepareAll exprs)
  | [] => by
      unfold prepareAll
      mvcgen
  | expr :: rest => by
      have hexpr := stops_prepare expr
      have hrest := stops_prepareAll rest
      unfold prepareAll
      mvcgen [hexpr, hrest]

theorem stops_prepareEntries :
    (entries : List (Expr × Expr)) → folding.Stops (folding.prepareEntries entries)
  | [] => by
      unfold prepareEntries
      mvcgen
  | (key, value) :: rest => by
      have hkey := stops_prepare key
      have hvalue := stops_prepare value
      have hrest := stops_prepareEntries rest
      unfold prepareEntries
      mvcgen [hkey, hvalue, hrest]

end

end Folding

end TemplateWorkbench.Template
