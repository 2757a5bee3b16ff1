import TemplateWorkbench.Proofs.Json.Members
import TemplateWorkbench.Proofs.Template.Compiling
import TemplateWorkbench.Proofs.Template.Grammar.Statements
import TemplateWorkbench.Proofs.Template.Numerals
import TemplateWorkbench.View.TemplateEngine

/-!
# Refusals that are not in the engine's words

The engine refuses a source in words of its own as long as the fault is one of templates.  Some literals
have faults of another kind: a decimal integer may be too long to be read, and a decimal fraction may hold
digits that are only digits elsewhere.  This file shows that reading has no other such faults: the tokens of
a source are refused in the engine's words exactly if the lexer meets no such literal, and the tree is
refused in the engine's words at least then.  Compiling adds the faults of constants, and an environment
the faults of written form.
-/

namespace TemplateWorkbench

open Template (Alternation)

namespace Template

variable {source : List Char}

/-! ### Literals that are refused -/

/-- The literals whose objections are not those of templates. -/
theorem Misreading.isTemplateFault_eq_false_iff {misreading : Misreading} :
    misreading.kind.isTemplateFault = false ↔
      (∃ digits, misreading = .literal (.tooLong digits)) ∨
        (∃ c, misreading = .literal (.foreignDigit c)) ∨ misreading = .literal .badDecimal := by
  constructor
  · intro hkind
    cases misreading with
    | literal fault =>
        cases fault with
        | tooLong digits => exact .inl ⟨digits, rfl⟩
        | foreignDigit c => exact .inr (.inl ⟨c, rfl⟩)
        | badDecimal => exact .inr (.inr rfl)
        | _ => cases hkind
    | _ => cases hkind
  · rintro (⟨digits, rfl⟩ | ⟨c, rfl⟩ | rfl) <;> rfl

/-- Whether the tokens of a source do not end at a literal whose objection is none of templates. -/
def IsReadable (source : List Char) : Prop :=
  ∀ line misreading, (tokenize source).fault = some (line, misreading) →
    misreading.kind.isTemplateFault = true

/-! ### Tokens and their places -/

/-- The tokens with places are the tokens for the grammar, and they are refused if those end early. -/
theorem placeFrom_spec (index : Text.LineIndex) (ending : Option (Nat × LexicalFault)) (cursor : Nat)
    (text : List Char) (pieces : List Piece) :
    match (tokensOf ending pieces).fault with
    | none => ∃ placed, placeFrom index ending cursor text pieces = .ok placed ∧
        placed.map (·.token) = (tokensOf ending pieces).tokens
    | some (line, misreading) =>
        placeFrom index ending cursor text pieces = .error (misreading.fault line) := by
  -- Whether the tokens end early does not depend on their places, so the cursor and the text vary.
  induction pieces generalizing cursor text with
  | nil =>
      cases ending with
      | none => exact ⟨[], rfl, rfl⟩
      | some ending => rfl
  | cons piece rest ih =>
      unfold placeFrom tokensOf
      cases hlexeme : piece.lexeme? with
      | error misreading => rfl
      | ok lexeme? =>
          cases lexeme? with
          | none => exact ih _ _
          | some lexeme =>
              have hothers := ih
                (cursor + (offsetOf? piece.text text).getD 0 + piece.text.length)
                (text.drop ((offsetOf? piece.text text).getD 0 + piece.text.length))
              dsimp only
              cases hfault : (tokensOf ending rest).fault with
              | none =>
                  rw [hfault] at hothers
                  obtain ⟨placed, hplaced, htokens⟩ := hothers
                  rw [hplaced]
                  exact ⟨_, rfl, congrArg (_ :: ·) htokens⟩
              | some ended =>
                  rw [hfault] at hothers
                  obtain ⟨line, misreading⟩ := ended
                  rw [hothers]
                  rfl

theorem placedTokens_spec (source : List Char) :
    match (tokenize source).fault with
    | none => ∃ placed, placedTokens source = .ok placed ∧
        placed.map (·.token) = (tokenize source).tokens
    | some (line, misreading) => placedTokens source = .error (misreading.fault line) :=
  placeFrom_spec _ _ _ _ _

/-- The tokens of a source that is read to its end have places, -/
theorem exists_placedTokens {source : List Char} (hread : (tokenize source).fault = none) :
    ∃ placed, placedTokens source = .ok placed ∧ placed.map (·.token) = (tokenize source).tokens := by
  have hspec := placedTokens_spec source
  rwa [hread] at hspec

/-- and otherwise it is refused with what the tokens ended with. -/
theorem placedTokens_eq_error {source : List Char} {ended : Nat × Misreading}
    (hended : (tokenize source).fault = some ended) :
    placedTokens source = .error (ended.2.fault ended.1) := by
  have hspec := placedTokens_spec source
  rwa [hended] at hspec

/-- What parsing a readable source objects to is a fault of templates. -/
theorem IsReadable.isTemplateFault_of_parse (hreadable : IsReadable source) {fault : Fault}
    (hparse : parse source = .error fault) : fault.kind.isTemplateFault = true := by
  rcases fault_of_parse hparse with hkind | ⟨line, misreading, hended, rfl⟩
  · exact hkind
  · exact hreadable line misreading hended

/-- What compiling a readable source on its own objects to. -/
theorem IsReadable.compileFault_of_routineNames {strict : Bool} {source : String}
    (hreadable : IsReadable source.toList) {fault : Fault}
    (hnames : routineNames strict source = .error fault) : CompileFault strict fault := by
  unfold routineNames at hnames
  cases hparse : parse source.toList with
  | error other =>
      rw [hparse] at hnames
      cases hnames
      exact .template (hreadable.isTemplateFault_of_parse hparse)
  | ok body =>
      rw [hparse] at hnames
      cases hcompile : compileTemplate
          { name := anonymousSource, strict, escapes := false, printsConstants := true } body with
      | error other =>
          simp only [bind, Except.bind, hcompile] at hnames
          cases hnames
          exact compileFault_of_compileTemplate _ hcompile
      | ok program =>
          simp only [bind, Except.bind, hcompile] at hnames
          cases hnames

/-- What compiling a readable source under a name objects to. -/
theorem IsReadable.compileFault_of_compileSource {strict : Bool} {name source : String}
    (hreadable : IsReadable source.toList) {fault : Fault}
    (hcompile : Environment.compileSource strict name source = .error fault) :
    CompileFault strict fault := by
  unfold Environment.compileSource at hcompile
  cases hparse : parse source.toList with
  | error other =>
      rw [hparse] at hcompile
      cases hcompile
      exact .template (hreadable.isTemplateFault_of_parse hparse)
  | ok body =>
      rw [hparse] at hcompile
      exact compileFault_of_compileTemplate _ hcompile

/-- What is rejected comes from one of the sources. -/
theorem Environment.exists_compileSource_of_compileAll {strict : Bool}
    {sources : List (String × String)} {rejection : Rejection}
    (hcompile : compileAll strict sources = .error rejection) :
    ∃ entry ∈ sources, ∃ fault, compileSource strict entry.1 entry.2 = .error fault ∧
      rejection = .ofFault fault entry.1 entry.2 := by
  induction sources with
  | nil => cases hcompile
  | cons entry rest ih =>
      unfold compileAll at hcompile
      cases hentry : compileSource strict entry.1 entry.2 with
      | error fault =>
          rw [hentry] at hcompile
          cases hcompile
          exact ⟨entry, List.mem_cons_self, fault, hentry, rfl⟩
      | ok program =>
          rw [hentry] at hcompile
          obtain ⟨found, hmem, hfound⟩ := ih (Results.map_eq_error_iff.mp hcompile)
          exact ⟨found, List.mem_cons_of_mem entry hmem, hfound⟩

theorem Rejection.ofFault_eq_plain {fault other : Fault} {name source : String}
    (hplain : ofFault fault name source = .plain other) :
    fault = other ∧ fault.kind.isTemplateFault = false := by
  unfold ofFault at hplain
  split at hplain
  · cases hplain
  · next hkind =>
      cases hplain
      exact ⟨rfl, Bool.eq_false_iff.mpr hkind⟩

/-- An environment of one source stops where the source cannot be compiled. -/
theorem Environment.ofSources_single_eq_error {strict : Bool} {name source : String} {fault : Fault}
    (hcompile : compileSource strict name source = .error fault) :
    ofSources strict [(name, source)] = .error (.ofFault fault name source) := by
  have hlast : Json.lastWins [(name, source)] = [(name, source)] := rfl
  simp only [ofSources, hlast, compileAll, hcompile]
  rfl

/-- What is not in the words of templates when an environment of readable sources is made. -/
theorem Environment.compileFault_of_ofSources {strict : Bool} {sources : List (String × String)}
    (hreadable : ∀ entry ∈ sources, IsReadable entry.2.toList) {fault : Fault}
    (hsources : ofSources strict sources = .error (.plain fault)) :
    CompileFault strict fault ∧ fault.kind.isTemplateFault = false := by
  unfold ofSources at hsources
  cases hcompile : compileAll strict (Json.lastWins sources) with
  | ok programs =>
      simp only [hcompile] at hsources
      cases hsources
  | error rejection =>
      simp only [hcompile] at hsources
      cases hsources
      obtain ⟨entry, hmem, found, hentry, hplain⟩ := exists_compileSource_of_compileAll hcompile
      obtain ⟨rfl, hkind⟩ := Rejection.ofFault_eq_plain hplain.symm
      obtain ⟨given, hgiven, hsource⟩ := Json.exists_mem_of_mem_lastWins hmem
      refine ⟨IsReadable.compileFault_of_compileSource ?_ hentry, hkind⟩
      rw [← hsource]
      exact hreadable given hgiven

end Template

/-! ### Refusals -/

/-- Whether a refusal is one that an engine should give. -/
def Refusal.isForeseen : Refusal → Bool
  | .unforeseen _ _ => false
  | _ => true

/-- Whether a result is not refused but in a way that an engine should refuse. -/
def IsForeseen {α : Type} (result : Except Refusal α) : Prop :=
  ∀ refusal, result = .error refusal → refusal.isForeseen = true

theorem Refusal.isForeseen_ofFault (fault : Template.Fault) (name source : String) :
    (Refusal.ofRejection (.ofFault fault name source)).isForeseen = fault.kind.isTemplateFault := by
  unfold Template.Rejection.ofFault
  split
  · next hkind => exact hkind.symm
  · next hkind => exact (Bool.eq_false_iff.mpr hkind).symm

namespace TemplateEngine

variable {source : String}

/-- A result on a source is foreseen exactly if its fault is one of templates. -/
theorem isForeseen_onSource_iff {α : Type} {result : Except Template.Fault α} :
    IsForeseen (onSource source result) ↔
      ∀ fault, result = .error fault → fault.kind.isTemplateFault = true := by
  cases result with
  | ok value => exact ⟨nofun, nofun⟩
  | error fault =>
      have hrefusal := Refusal.isForeseen_ofFault fault Template.anonymousSource source
      constructor
      · rintro hforeseen _ ⟨rfl⟩
        rw [← hrefusal]
        exact hforeseen _ rfl
      · rintro hkind _ ⟨rfl⟩
        rw [hrefusal]
        exact hkind fault rfl

/-- What is made of a result is refused as the result is. -/
theorem isForeseen_bind_pure_iff {α β : Type} {result : Except Refusal α} {f : α → β} :
    IsForeseen (do pure (f (← result))) ↔ IsForeseen result := by
  cases result with
  | ok value => exact ⟨nofun, nofun⟩
  | error refusal =>
      constructor
      · rintro hforeseen _ ⟨rfl⟩
        exact hforeseen refusal rfl
      · rintro hforeseen _ ⟨rfl⟩
        exact hforeseen refusal rfl

/-- The tokens of a source are refused in the engine's words exactly if the source is readable. -/
theorem isForeseen_tokens_iff :
    IsForeseen (TemplateEngine.tokens source) ↔ Template.IsReadable source.toList := by
  unfold TemplateEngine.tokens
  rw [isForeseen_bind_pure_iff, isForeseen_onSource_iff, Template.IsReadable]
  cases hended : (Template.tokenize source.toList).fault with
  | none =>
      obtain ⟨placed, hplaced, -⟩ := Template.exists_placedTokens hended
      rw [hplaced]
      exact ⟨nofun, nofun⟩
  | some ended =>
      rw [Template.placedTokens_eq_error hended]
      constructor
      · rintro hkind line misreading ⟨rfl⟩
        exact hkind _ rfl
      · rintro hreadable _ ⟨rfl⟩
        exact hreadable ended.1 ended.2 rfl

/-- The tree of a readable source is refused in the engine's words. -/
theorem isForeseen_tree (hreadable : Template.IsReadable source.toList) :
    IsForeseen (TemplateEngine.tree source) := by
  unfold TemplateEngine.tree
  rw [isForeseen_bind_pure_iff, isForeseen_onSource_iff]
  exact fun fault => hreadable.isTemplateFault_of_parse

/-- The names of routines are refused in the engine's words, or for a fault of compiling that is neither
one of templates nor one of written form. -/
theorem exists_fault_of_routineNames {strict : Bool} {kind message : String}
    (hrefused : TemplateEngine.routineNames strict source = .error (.unforeseen kind message)) :
    ∃ fault, Template.routineNames strict source = .error fault ∧ kind = fault.kind.name ∧
      message = fault.message ∧ fault.kind.isTemplateFault = false ∧ fault.kind.isFormFault = false := by
  unfold TemplateEngine.routineNames at hrefused
  cases hnames : Template.routineNames strict source with
  | ok names =>
      rw [hnames] at hrefused
      cases hrefused
  | error fault =>
      rw [hnames] at hrefused
      dsimp only at hrefused
      split at hrefused
      · cases hrefused
      · next hform =>
          unfold onSource Except.mapError Template.Rejection.ofFault at hrefused
          dsimp only at hrefused
          split at hrefused
          · cases hrefused
          · next hkind =>
              cases hrefused
              exact ⟨fault, rfl, rfl, rfl, Bool.eq_false_iff.mpr hkind, Bool.eq_false_iff.mpr hform⟩

end TemplateEngine

/-- Readable sources are refused in the engine's words by tokens and tree, and by the names of routines and
by environments but for the faults of constants and, in an environment, of written form.  Of a source that
is not readable not even the tokens are. -/
theorem refusals_of_readable (strict : Bool) {sources : List (String × String)}
    (hreadable : ∀ entry ∈ sources, Template.IsReadable entry.2.toList) :
    (∀ entry ∈ sources,
      IsForeseen (TemplateEngine.tokens entry.2) ∧ IsForeseen (TemplateEngine.tree entry.2) ∧
        ∀ kind message, TemplateEngine.routineNames strict entry.2 = .error (.unforeseen kind message) →
          ∃ fault, Template.CompileFault strict fault ∧ kind = fault.kind.name ∧
            message = fault.message ∧ fault.kind.isTemplateFault = false ∧
            fault.kind.isFormFault = false) ∧
      (∀ fault, Template.Environment.ofSources strict sources = .error (.plain fault) →
        Template.CompileFault strict fault ∧ fault.kind.isTemplateFault = false) ∧
      ∀ source : String, ¬ Template.IsReadable source.toList →
        ¬ IsForeseen (TemplateEngine.tokens source) := by
  refine ⟨fun entry hmem => ?_, fun fault => ?_, fun source => ?_⟩
  · have hentry := hreadable entry hmem
    refine ⟨TemplateEngine.isForeseen_tokens_iff.mpr hentry, TemplateEngine.isForeseen_tree hentry, ?_⟩
    intro kind message hrefused
    obtain ⟨fault, hnames, hkind, hmessage, hfaults⟩ :=
      TemplateEngine.exists_fault_of_routineNames hrefused
    exact ⟨fault, hentry.compileFault_of_routineNames hnames, hkind, hmessage, hfaults⟩
  · exact Template.Environment.compileFault_of_ofSources hreadable
  · exact mt TemplateEngine.isForeseen_tokens_iff.mp

/-! ### Keys that are no keys -/

namespace Template

/-- The print of a dictionary whose only key is a list, or else of an integer. -/
def listKey : List Statement :=
  [.output 1 [.binary 1 .or (.dict 1 [(.list 1 [], .const 1 (.int 1))]) (.const 1 (.int 1))]]

/-- Whether a body is that print. -/
def isListKey : List Statement → Bool
  | [.output 1 [.binary 1 .or (.dict 1 [(.list 1 [], .const 1 (.int 1))]) (.const 1 (.int 1))]] => true
  | _ => false

theorem eq_listKey {body : List Statement} (hbody : isListKey body = true) : body = listKey := by
  unfold isListKey at hbody
  split at hbody
  · rfl
  · cases hbody

/-- The source of that print. -/
def listKeySource : String := "\x7b\x7b \x7b[]: 1\x7d or 1 \x7d\x7d"

/-- All of the source is made into tokens, and they are read as that print. -/
theorem reads_listKeySource : (tokenize listKeySource.toList).fault = none ∧
    (parse listKeySource.toList).toOption.map isListKey = some true := by
  decide +kernel

theorem parse_listKeySource : parse listKeySource.toList = .ok listKey := by
  obtain ⟨-, hparse⟩ := reads_listKeySource
  cases hbody : parse listKeySource.toList with
  | error fault =>
      rw [hbody] at hparse
      cases hparse
  | ok body =>
      rw [hbody] at hparse
      rw [eq_listKey (Option.some.inj hparse)]

/-- What is said of a list as a key. -/
def listKeyFault : Fault := ⟨.type, "unhashable type: 'list'", none, none⟩

theorem ofSources_listKey :
    Environment.ofSources true [("page.txt", listKeySource)] = .error (.plain listKeyFault) := by
  have hcompile : Results.error? (compileTemplate (Environment.settingFor true "page.txt") listKey) =
      some listKeyFault := by decide
  have hsource : Environment.compileSource true "page.txt" listKeySource = .error listKeyFault := by
    rw [Environment.compileSource, parse_listKeySource]
    exact Results.error?_eq_some_iff.mp hcompile
  exact Environment.ofSources_single_eq_error hsource

theorem isReadable_listKeySource : IsReadable listKeySource.toList := by
  intro line misreading hfault
  obtain ⟨hended, -⟩ := reads_listKeySource
  rw [hended] at hfault
  cases hfault

end Template

/-- A dictionary with a list as a key can be read, but it cannot be compiled, and the fault is not in the
words of templates. -/
theorem refusals_listKey :
    Template.IsReadable Template.listKeySource.toList ∧
      IsForeseen (TemplateEngine.tokens Template.listKeySource) ∧
      IsForeseen (TemplateEngine.tree Template.listKeySource) ∧
      Template.Environment.ofSources true [("page.txt", Template.listKeySource)] =
        .error (.plain Template.listKeyFault) ∧
      Template.CompileFault true Template.listKeyFault := by
  have hreadable : ∀ entry ∈ [("page.txt", Template.listKeySource)],
      Template.IsReadable entry.2.toList := by
    simpa using Template.isReadable_listKeySource
  have hsources := Template.ofSources_listKey
  obtain ⟨hreading, hcompiling, -⟩ := refusals_of_readable true hreadable
  obtain ⟨htokens, htree, -⟩ := hreading _ List.mem_cons_self
  exact ⟨Template.isReadable_listKeySource, htokens, htree, hsources, (hcompiling _ hsources).1⟩

/-! ### Numerals that are too long -/

namespace Template

/-- A decimal integer literal that is longer than the limit. -/
structure IsLongDecimal (numeral : String) : Prop where
  digits : Number.AreDigits 10 numeral.toList
  notZero : numeral.toList.head? ≠ some '0'
  long : Number.digitLimit < numeral.toList.length

theorem IsLongDecimal.tokenize {numeral : String} (hlong : IsLongDecimal numeral) :
    tokenize (Alternation.tag numeral) =
      ⟨[⟨1, .variableBegin⟩], some (1, .literal (.tooLong numeral.toList.length))⟩ := by
  obtain ⟨hdigits, hzero, hlong⟩ := hlong
  cases hchars : numeral.toList with
  | nil =>
      rw [hchars] at hlong
      exact absurd hlong (Nat.not_lt_zero _)
  | cons first others =>
      rw [hchars] at hdigits hzero hlong
      exact tokenize_decimal hchars hdigits (by simpa using hzero) hlong

/-- What the grammar makes of a print that ends at its first token. -/
theorem template_broken (misreading : Misreading) :
    Grammar.template ⟨[⟨1, .variableBegin⟩], some (1, misreading)⟩ = .error (misreading.fault 1) := by
  rfl

/-- The fault of a numeral that is too long. -/
def tooLongFault (digits : Nat) : Fault := ⟨.value, Number.readLimitMessage digits, none, none⟩

/-- What is said of a numeral that is too long is no fault of templates and none of written form. -/
theorem parse_longDecimal {numeral : String} (hlong : IsLongDecimal numeral) :
    parse (Alternation.tag numeral) = .error (tooLongFault numeral.toList.length) := by
  rw [parse, hlong.tokenize, template_broken]
  rfl

theorem isLongDecimal_replicate {count : Nat} (hcount : Number.digitLimit < count) :
    IsLongDecimal (String.ofList (List.replicate count '1')) := by
  refine ⟨?_, ?_, by simpa using hcount⟩
  · intro c hc
    rw [String.toList_ofList] at hc
    rw [List.eq_of_mem_replicate hc]
    decide
  · rw [String.toList_ofList, List.head?_replicate]
    split <;> simp

end Template

/-- Nothing holds back the fault of a numeral that is too long: not the list of tokens, not the tree, not
the names of the routines and not an environment. -/
theorem refused_longDecimal (strict : Bool) {numeral : String} (hlong : Template.IsLongDecimal numeral) :
    let source := String.ofList (Alternation.tag numeral)
    let fault := Template.tooLongFault numeral.toList.length
    let refusal := Refusal.unforeseen "ValueError" (Number.readLimitMessage numeral.toList.length)
    TemplateEngine.tokens source = .error refusal ∧ TemplateEngine.tree source = .error refusal ∧
      TemplateEngine.routineNames strict source = .error refusal ∧
      ∀ name, Template.Environment.ofSources strict [(name, source)] = .error (.plain fault) := by
  intro source fault refusal
  have hsource : source.toList = Alternation.tag numeral := String.toList_ofList
  have hparse : Template.parse source.toList = .error fault := by
    rw [hsource]
    exact Template.parse_longDecimal hlong
  refine ⟨?_, ?_, ?_, fun name => ?_⟩
  · have hended : (Template.tokenize source.toList).fault =
        some (1, .literal (.tooLong numeral.toList.length)) := by rw [hsource, hlong.tokenize]
    unfold TemplateEngine.tokens
    rw [Template.placedTokens_eq_error hended]
    rfl
  · unfold TemplateEngine.tree
    rw [hparse]
    rfl
  · unfold TemplateEngine.routineNames Template.routineNames
    rw [hparse]
    rfl
  · have hcompile : Template.Environment.compileSource strict name source = .error fault := by
      unfold Template.Environment.compileSource
      rw [hparse]
      rfl
    exact Template.Environment.ofSources_single_eq_error hcompile

/-- A numeral of one digit more than the limit. -/
theorem tokens_tooManyDigits :
    TemplateEngine.tokens
        (String.ofList (Alternation.tag (String.ofList (List.replicate 4301 '1')))) =
      .error (.unforeseen "ValueError"
        ("Exceeds the limit (4300 digits) for integer string conversion: value has 4301 digits; use " ++
          "sys.set_int_max_str_digits() to increase the limit")) := by
  have hlong : Template.IsLongDecimal (String.ofList (List.replicate 4301 '1')) :=
    Template.isLongDecimal_replicate (by decide)
  have hmessage : Number.readLimitMessage 4301 =
      "Exceeds the limit (4300 digits) for integer string conversion: value has 4301 digits; use " ++
        "sys.set_int_max_str_digits() to increase the limit" := by decide +kernel
  obtain ⟨htokens, -⟩ := refused_longDecimal true hlong
  rw [htokens, String.toList_ofList, List.length_replicate, hmessage]

end TemplateWorkbench
