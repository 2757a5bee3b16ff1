import TemplateWorkbench.Proofs.Json.RoundTrip
import TemplateWorkbench.Proofs.Text.Quoting

/-!
# Forms tell values

Values are put in order by the form in which they are written inside expressions.  Two values with one form
are the same: a list is no text that looks like it, and `1`, `1.0` and `True` stay apart.  The proof goes
along the first value; what comes first in a form tells the kind of its value, and what a value is followed
by never goes on with it.

So the order in which values are given to be sorted by their forms does not matter: values that tie are
equal.
-/

namespace TemplateWorkbench.Json

open Number Text

/-- What holds of every container once it holds of what is in it holds of every value. -/
theorem inductOnParts {motive : Json → Prop} (null : motive .null) (bool : ∀ value, motive (.bool value))
    (int : ∀ value, motive (.int value)) (double : ∀ value, motive (.double value))
    (string : ∀ text, motive (.string text))
    (list : ∀ items, (∀ item ∈ items, motive item) → motive (.list items))
    (object : ∀ members, (∀ member ∈ members, motive member.2) → motive (.object members))
    (value : Json) : motive value := by
  match value with
  | .null => exact null
  | .bool value => exact bool value
  | .int value => exact int value
  | .double value => exact double value
  | .string text => exact string text
  | .list items =>
      exact list items fun item _ => inductOnParts null bool int double string list object item
  | .object members =>
      exact object members fun member _ =>
        inductOnParts null bool int double string list object member.2
termination_by sizeOf value
decreasing_by
  · have hlt := List.sizeOf_lt_of_mem ‹_›
    simp only [Json.list.sizeOf_spec]
    omega
  · have hlt := List.sizeOf_lt_of_mem ‹_›
    obtain ⟨name, value⟩ := member
    simp only [Json.object.sizeOf_spec, Prod.mk.sizeOf_spec] at hlt ⊢
    omega

/-! ### Forms as characters -/

/-- A value is written by these characters inside an expression. -/
def Form (value : Json) (chars : List Char) : Prop :=
  ∃ text, quoted? value = some text ∧ text.toList = chars

/-- A member is written by these characters. -/
def MemberForm (member : String × Json) (chars : List Char) : Prop :=
  ∃ form, Form member.2 form ∧ chars = (Text.quote member.1).toList ++ ':' :: ' ' :: form

/-- The parts of a container up to its end. -/
def enclosed (closing : Char) : List (List Char) → List Char
  | [] => [closing]
  | first :: others => first ++ (following [' '] others ++ [closing])

theorem toList_commaSeparated (texts : List String) (closing : Char) :
    (commaSeparated texts).toList ++ [closing] = enclosed closing (texts.map String.toList) := by
  rw [commaSeparated, String.toList_intercalate, List.intercalate]
  cases texts with
  | nil => rfl
  | cons first others =>
      rw [List.map_cons, show ", ".toList = ',' :: [' '] from rfl, flatten_intersperse, enclosed,
        List.append_assoc]

theorem forall₂_of_quotedItems? {items : List Json} {texts : List String}
    (hitems : quotedItems? items = some texts) : List.Forall₂ Form items (texts.map String.toList) := by
  induction items generalizing texts with
  | nil =>
      cases hitems
      exact .nil
  | cons item rest ih =>
      rw [quotedItems?] at hitems
      obtain ⟨first, hfirst, hothers⟩ := Option.bind_eq_some_iff.mp hitems
      obtain ⟨others, hrest, htexts⟩ := Option.bind_eq_some_iff.mp hothers
      cases htexts
      exact .cons ⟨first, hfirst, rfl⟩ (ih hrest)

theorem forall₂_of_quotedMembers? {members : List (String × Json)} {texts : List String}
    (hmembers : quotedMembers? members = some texts) :
    List.Forall₂ MemberForm members (texts.map String.toList) := by
  induction members generalizing texts with
  | nil =>
      cases hmembers
      exact .nil
  | cons member rest ih =>
      obtain ⟨name, value⟩ := member
      rw [quotedMembers?] at hmembers
      obtain ⟨form, hform, hothers⟩ := Option.bind_eq_some_iff.mp hmembers
      obtain ⟨others, hrest, htexts⟩ := Option.bind_eq_some_iff.mp hothers
      cases htexts
      exact .cons ⟨form.toList, ⟨form, hform, rfl⟩, by simp [toString]⟩ (ih hrest)

theorem Form.list {items : List Json} {chars : List Char} (hform : Form (.list items) chars) :
    ∃ parts, List.Forall₂ Form items parts ∧ chars = '[' :: enclosed ']' parts := by
  obtain ⟨text, htext, rfl⟩ := hform
  rw [quoted?] at htext
  obtain ⟨texts, hitems, hwhole⟩ := Option.bind_eq_some_iff.mp htext
  cases hwhole
  refine ⟨_, forall₂_of_quotedItems? hitems, ?_⟩
  rw [← toList_commaSeparated]
  simp [toString]

theorem Form.object {members : List (String × Json)} {chars : List Char}
    (hform : Form (.object members) chars) :
    ∃ parts, List.Forall₂ MemberForm members parts ∧ chars = '\x7b' :: enclosed '\x7d' parts := by
  obtain ⟨text, htext, rfl⟩ := hform
  rw [quoted?] at htext
  obtain ⟨texts, hmembers, hwhole⟩ := Option.bind_eq_some_iff.mp htext
  cases hwhole
  refine ⟨_, forall₂_of_quotedMembers? hmembers, ?_⟩
  rw [← toList_commaSeparated]
  simp [toString]

theorem exists_quote (text : String) :
    ∃ quote rest, IsQuote quote ∧ (Text.quote text).toList = quote :: rest := by
  rw [Text.quote, String.toList_ofList]
  exact ⟨_, _, isQuote_quoteFor text.toList, rfl⟩

/-! ### Numbers -/

/-- The doubles that are no numbers of any size, with the words that they are written by. -/
def wordDoubles : List (String × Double) :=
  [("nan", .nan), ("inf", .infinite false), ("-inf", .infinite true)]

/-- Characters that are read as a number, or the word of a double that is none. -/
inductive NumberForm : Json → List Char → Prop
  | digits {value : Json} {chars : List Char}
      (hread : ∀ rest, EndsNumber rest → readNumber (chars ++ rest) = .ok (value, rest)) :
      NumberForm value chars
  | word (pair : String × Double) (hmem : pair ∈ wordDoubles) :
      NumberForm (.double pair.2) pair.1.toList

theorem Form.int {value : Int} {chars : List Char} (hform : Form (.int value) chars) :
    NumberForm (.int value) chars := by
  obtain ⟨text, htext, rfl⟩ := hform
  rw [quoted?, integerText?] at htext
  cases hshort : isTooLong value with
  | true => simp [hshort] at htext
  | false =>
      rw [hshort] at htext
      cases htext
      exact .digits fun rest hends => readNumber_integerText hshort hends

theorem Form.double {value : Double} {chars : List Char} (hform : Form (.double value) chars) :
    NumberForm (.double value) chars := by
  obtain ⟨text, htext, rfl⟩ := hform
  cases htext
  match value with
  | .nan => exact .word ("nan", .nan) (by decide)
  | .infinite false => exact .word ("inf", .infinite false) (by decide)
  | .infinite true => exact .word ("-inf", .infinite true) (by decide)
  | .finite negative rank => exact .digits fun rest hends => readNumber_write negative rank hends

/-- No word is read as a number. -/
theorem readNumber_word {pair : String × Double} (hmem : pair ∈ wordDoubles) (rest : List Char)
    (found : Json × List Char) : readNumber (pair.1.toList ++ rest) ≠ .ok found := by
  simp only [wordDoubles, List.mem_cons, List.not_mem_nil, or_false] at hmem
  intro hread
  rcases hmem with rfl | rfl | rfl <;> cases hread

theorem word_append_inj {pair other : String × Double} (hpair : pair ∈ wordDoubles)
    (hother : other ∈ wordDoubles) {rest more : List Char}
    (heq : pair.1.toList ++ rest = other.1.toList ++ more) : pair = other ∧ rest = more := by
  simp only [wordDoubles, List.mem_cons, List.not_mem_nil, or_false] at hpair hother
  rcases hpair with rfl | rfl | rfl <;> rcases hother with rfl | rfl | rfl <;> simp_all

theorem NumberForm.append_inj {value other : Json} {chars others rest more : List Char}
    (hvalue : NumberForm value chars) (hother : NumberForm other others) (hrest : EndsNumber rest)
    (hmore : EndsNumber more) (heq : chars ++ rest = others ++ more) : value = other ∧ rest = more := by
  -- No word is read as a number, so digits and words do not meet.
  cases hvalue with
  | digits hread =>
      have hfirst := hread rest hrest
      rw [heq] at hfirst
      cases hother with
      | digits hreadOther =>
          rw [hreadOther more hmore] at hfirst
          cases hfirst
          exact ⟨rfl, rfl⟩
      | word _ hmem => exact absurd hfirst (readNumber_word hmem more _)
  | word _ hmem =>
      cases hother with
      | digits hreadOther =>
          have hsecond := hreadOther more hmore
          rw [← heq] at hsecond
          exact absurd hsecond (readNumber_word hmem rest _)
      | word _ hmemOther =>
          obtain ⟨rfl, hend⟩ := word_append_inj hmem hmemOther heq
          exact ⟨rfl, hend⟩

/-- What a number begins with: a digit, a sign, or the first character of a word. -/
theorem NumberForm.exists_first {value : Json} {chars : List Char} (hform : NumberForm value chars) :
    ∃ first rest, chars = first :: rest ∧
      (first.isDigit = true ∨ first = '-' ∨ first = 'n' ∨ first = 'i') := by
  cases hform with
  | digits hread =>
      have hself := hread [] nofun
      rw [List.append_nil] at hself
      obtain ⟨negative, first, rest, rfl, hdigit⟩ := exists_digit_of_readNumber hself
      cases negative with
      | true => exact ⟨'-', _, rfl, .inr (.inl rfl)⟩
      | false => exact ⟨first, rest, rfl, .inl hdigit⟩
  | word _ hmem =>
      simp only [wordDoubles, List.mem_cons, List.not_mem_nil, or_false] at hmem
      rcases hmem with rfl | rfl | rfl
      · exact ⟨'n', _, rfl, .inr (.inr (.inl rfl))⟩
      · exact ⟨'i', _, rfl, .inr (.inr (.inr rfl))⟩
      · exact ⟨'-', _, rfl, .inr (.inl rfl)⟩

/-! ### What comes first -/

/-- The kinds of values whose forms begin differently. -/
inductive FormKind where
  | null | bool | number | string | list | object
deriving DecidableEq

/-- The kind of a value. -/
def formKind : Json → FormKind
  | .null => .null
  | .bool _ => .bool
  | .int _ | .double _ => .number
  | .string _ => .string
  | .list _ => .list
  | .object _ => .object

/-- The kind that the first character of a form tells. -/
def kindOf? (c : Char) : Option FormKind :=
  if c = 'N' then some .null
  else if c = 'T' || c = 'F' then some .bool
  else if c = '\'' || c = '"' then some .string
  else if c = '[' then some .list
  else if c = '\x7b' then some .object
  else if c.isDigit || c = '-' || c = 'n' || c = 'i' then some .number
  else none

theorem kindOf?_number {c : Char} (hfirst : c.isDigit = true ∨ c = '-' ∨ c = 'n' ∨ c = 'i') :
    kindOf? c = some .number := by
  rcases hfirst with hdigit | rfl | rfl | rfl
  · have hne {other : Char} (hother : other.isDigit = false) : c ≠ other := by
      rintro rfl
      rw [hdigit] at hother
      cases hother
    simp [kindOf?, hdigit, hne (show 'N'.isDigit = false from rfl), hne (show 'T'.isDigit = false from rfl),
      hne (show 'F'.isDigit = false from rfl), hne (show '\''.isDigit = false from rfl),
      hne (show '"'.isDigit = false from rfl), hne (show '['.isDigit = false from rfl),
      hne (show '\x7b'.isDigit = false from rfl)]
  all_goals rfl

/-- The first character of a form tells the kind of the value. -/
theorem Form.exists_first {value : Json} {chars : List Char} (hform : Form value chars) :
    ∃ first rest, chars = first :: rest ∧ kindOf? first = some value.formKind := by
  have hnumber {value : Json} (hform : NumberForm value chars) :
      ∃ first rest, chars = first :: rest ∧ kindOf? first = some .number := by
    obtain ⟨first, rest, hchars, hfirst⟩ := hform.exists_first
    exact ⟨first, rest, hchars, kindOf?_number hfirst⟩
  cases value with
  | null =>
      obtain ⟨text, htext, rfl⟩ := hform
      cases htext
      exact ⟨'N', _, rfl, rfl⟩
  | bool value =>
      obtain ⟨text, htext, rfl⟩ := hform
      cases htext
      cases value with
      | true => exact ⟨'T', _, rfl, rfl⟩
      | false => exact ⟨'F', _, rfl, rfl⟩
  | int value => exact hnumber hform.int
  | double value => exact hnumber hform.double
  | string value =>
      obtain ⟨text, htext, rfl⟩ := hform
      cases htext
      obtain ⟨quote, rest, hquote, hchars⟩ := exists_quote value
      exact ⟨quote, rest, hchars, by rcases hquote with rfl | rfl <;> rfl⟩
  | list items =>
      obtain ⟨parts, -, rfl⟩ := hform.list
      exact ⟨'[', _, rfl, rfl⟩
  | object members =>
      obtain ⟨parts, -, rfl⟩ := hform.object
      exact ⟨'\x7b', _, rfl, rfl⟩

theorem formKind_eq_of_append_eq {value other : Json} {chars others rest more : List Char}
    (hvalue : Form value chars) (hother : Form other others) (heq : chars ++ rest = others ++ more) :
    value.formKind = other.formKind := by
  obtain ⟨first, _, rfl, hfirst⟩ := hvalue.exists_first
  obtain ⟨second, _, rfl, hsecond⟩ := hother.exists_first
  rw [(List.cons.inj heq).1, hsecond] at hfirst
  exact (Option.some.inj hfirst).symm

/-! ### Containers -/

section Parts

variable {α : Type} {form : α → List Char → Prop} {closing : Char}

/-- The form of a part tells the part and where it ends. -/
def Tells (form : α → List Char → Prop) (part : α) : Prop :=
  ∀ chars rest other others more, form part chars → form other others → EndsNumber rest →
    EndsNumber more → chars ++ rest = others ++ more → part = other ∧ rest = more

theorem endsNumber_closing (hclosing : closing = ']' ∨ closing = '\x7d') (rest : List Char) :
    EndsNumber (closing :: rest) := by
  rcases hclosing with rfl | rfl
  all_goals
    rintro c ⟨⟩
    decide

/-- Parts that tell themselves are told by what follows a part of a container. -/
theorem following_append_inj (hclosing : closing = ']' ∨ closing = '\x7d') {parts others : List α}
    {chars more : List (List Char)} {rest end' : List Char} (hparts : List.Forall₂ form parts chars)
    (hothers : List.Forall₂ form others more) (htells : ∀ part ∈ parts, Tells form part)
    (heq : following [' '] chars ++ closing :: rest = following [' '] more ++ closing :: end') :
    parts = others ∧ rest = end' := by
  have hcomma : ',' ≠ closing := by
    rcases hclosing with rfl | rfl <;> decide
  have hends := endsNumber_closing hclosing
  -- A comma goes on and the end closes; as long as both go on, the next parts are told.
  induction hparts generalizing others more with
  | nil =>
      cases hothers with
      | nil => exact ⟨rfl, (List.cons.inj heq).2⟩
      | cons _ _ =>
          rw [following_cons] at heq
          exact absurd (List.cons.inj heq).1.symm hcomma
  | @cons part first parts chars hpart hparts ih =>
      rw [following_cons] at heq
      cases hothers with
      | nil => exact absurd (List.cons.inj heq).1 hcomma
      | @cons other second others more hother hothers =>
          rw [following_cons] at heq
          simp only [List.cons_append, List.nil_append, List.cons.injEq, true_and] at heq
          obtain ⟨rfl, hrest⟩ := htells part List.mem_cons_self _ _ _ _ _ hpart hother
            (endsNumber_following _ _ (hends rest)) (endsNumber_following _ _ (hends end')) heq
          obtain ⟨rfl, hend⟩ :=
            ih hothers (fun part hmem => htells part (List.mem_cons_of_mem _ hmem)) hrest
          exact ⟨rfl, hend⟩

/-- Parts that tell themselves are told by the container they are in, since none begins with its end. -/
theorem enclosed_append_inj (hclosing : closing = ']' ∨ closing = '\x7d')
    (hstart : ∀ {part chars}, form part chars →
      ∃ first rest, chars = first :: rest ∧ first ≠ closing)
    {parts others : List α} {chars more : List (List Char)} {rest end' : List Char}
    (hparts : List.Forall₂ form parts chars) (hothers : List.Forall₂ form others more)
    (htells : ∀ part ∈ parts, Tells form part)
    (heq : enclosed closing chars ++ rest = enclosed closing more ++ end') :
    parts = others ∧ rest = end' := by
  have hends := endsNumber_closing hclosing
  -- A container is empty where its end stands in front, and no part begins with the end.
  cases hparts with
  | nil =>
      cases hothers with
      | nil => exact ⟨rfl, (List.cons.inj heq).2⟩
      | cons hother _ =>
          obtain ⟨first, _, rfl, hne⟩ := hstart hother
          exact absurd (List.cons.inj heq).1.symm hne
  | cons hpart hparts =>
      cases hothers with
      | nil =>
          obtain ⟨first, _, rfl, hne⟩ := hstart hpart
          exact absurd (List.cons.inj heq).1 hne
      | cons hother hothers =>
          simp only [enclosed, List.append_assoc, List.singleton_append] at heq
          obtain ⟨rfl, hrest⟩ := htells _ List.mem_cons_self _ _ _ _ _ hpart hother
            (endsNumber_following _ _ (hends rest)) (endsNumber_following _ _ (hends end')) heq
          obtain ⟨rfl, hend⟩ := following_append_inj hclosing hparts hothers
            (fun part hmem => htells part (List.mem_cons_of_mem _ hmem)) hrest
          exact ⟨rfl, hend⟩

end Parts

/-- A member tells itself if its value does. -/
theorem tells_member {member : String × Json} (hvalue : Tells Form member.2) : Tells MemberForm member := by
  intro chars rest other others more hmember hotherMember hrest hmore heq
  obtain ⟨form, hform, hchars⟩ := hmember
  obtain ⟨otherForm, hother, hothers⟩ := hotherMember
  rw [hchars, hothers] at heq
  simp only [List.append_assoc, List.cons_append] at heq
  obtain ⟨hname, hbody⟩ := quote_append_inj heq
  simp only [List.cons.injEq, true_and] at hbody
  obtain ⟨hsame, hend⟩ := hvalue _ _ _ _ _ hform hother hrest hmore hbody
  exact ⟨Prod.ext hname hsame, hend⟩

/-! ### Whole values -/

/-- A form tells its value and where it ends, wherever a number may end after it. -/
theorem tells (value : Json) : Tells Form value := by
  -- In every case the two forms begin alike, so a value of another kind drops out.
  induction value using inductOnParts with
  | null =>
      intro chars rest other others more hvalue hother _ _ heq
      have hkind := formKind_eq_of_append_eq hvalue hother heq
      obtain ⟨_, htext, rfl⟩ := hvalue
      cases htext
      cases other with
      | null =>
          obtain ⟨_, hword, rfl⟩ := hother
          cases hword
          exact ⟨rfl, List.append_cancel_left heq⟩
      | _ => cases hkind
  | bool value =>
      intro chars rest other others more hvalue hother _ _ heq
      have hkind := formKind_eq_of_append_eq hvalue hother heq
      obtain ⟨_, htext, rfl⟩ := hvalue
      cases htext
      cases other with
      | bool word =>
          obtain ⟨_, hword, rfl⟩ := hother
          cases hword
          cases value <;> cases word <;> simp_all
      | _ => cases hkind
  | int value =>
      intro chars rest other others more hvalue hother hrest hmore heq
      have hkind := formKind_eq_of_append_eq hvalue hother heq
      cases other with
      | int number => exact hvalue.int.append_inj hother.int hrest hmore heq
      | double number => exact hvalue.int.append_inj hother.double hrest hmore heq
      | _ => cases hkind
  | double value =>
      intro chars rest other others more hvalue hother hrest hmore heq
      have hkind := formKind_eq_of_append_eq hvalue hother heq
      cases other with
      | int number => exact hvalue.double.append_inj hother.int hrest hmore heq
      | double number => exact hvalue.double.append_inj hother.double hrest hmore heq
      | _ => cases hkind
  | string text =>
      intro chars rest other others more hvalue hother _ _ heq
      have hkind := formKind_eq_of_append_eq hvalue hother heq
      obtain ⟨_, htext, rfl⟩ := hvalue
      cases htext
      cases other with
      | string words =>
          obtain ⟨_, hword, rfl⟩ := hother
          cases hword
          obtain ⟨hsame, hend⟩ := quote_append_inj heq
          exact ⟨congrArg Json.string hsame, hend⟩
      | _ => cases hkind
  | list items ih =>
      intro chars rest other others more hvalue hother _ _ heq
      have hkind := formKind_eq_of_append_eq hvalue hother heq
      obtain ⟨parts, hparts, rfl⟩ := hvalue.list
      cases other with
      | list found =>
          obtain ⟨pieces, hpieces, rfl⟩ := hother.list
          have hstart {item : Json} {chars : List Char} (hform : Form item chars) :
              ∃ first rest, chars = first :: rest ∧ first ≠ ']' := by
            obtain ⟨first, rest, hchars, hfirst⟩ := hform.exists_first
            refine ⟨first, rest, hchars, ?_⟩
            rintro rfl
            cases hfirst
          obtain ⟨hsame, hend⟩ :=
            enclosed_append_inj (.inl rfl) hstart hparts hpieces ih (List.cons.inj heq).2
          exact ⟨congrArg Json.list hsame, hend⟩
      | _ => cases hkind
  | object members ih =>
      intro chars rest other others more hvalue hother _ _ heq
      have hkind := formKind_eq_of_append_eq hvalue hother heq
      obtain ⟨parts, hparts, rfl⟩ := hvalue.object
      cases other with
      | object found =>
          obtain ⟨pieces, hpieces, rfl⟩ := hother.object
          have hstart {member : String × Json} {chars : List Char} (hform : MemberForm member chars) :
              ∃ first rest, chars = first :: rest ∧ first ≠ '\x7d' := by
            obtain ⟨form, -, hchars⟩ := hform
            obtain ⟨quote, rest, hquote, hname⟩ := exists_quote member.1
            refine ⟨quote, _, by rw [hchars, hname, List.cons_append], ?_⟩
            rcases hquote with rfl | rfl <;> decide
          obtain ⟨hsame, hend⟩ := enclosed_append_inj (.inr rfl) hstart hparts hpieces
            (fun member hmem => tells_member (ih member hmem)) (List.cons.inj heq).2
          exact ⟨congrArg Json.object hsame, hend⟩
      | _ => cases hkind

/-- Two values with one form are the same. -/
theorem quoted?_injective {value other : Json} {text : String} (hvalue : quoted? value = some text)
    (hother : quoted? other = some text) : value = other :=
  (tells value text.toList [] other text.toList [] ⟨text, hvalue, rfl⟩ ⟨text, hother, rfl⟩ nofun nofun
    rfl).1

/-! ### Values in the order of their forms -/

/-- A value behind its form. -/
def keyed (value : Json) : String × Json := ((quoted? value).getD "", value)

/-- An earlier form, or the same one. -/
def formLe (first second : String × Json) : Bool := decide (first.1 ≤ second.1)

theorem mapM_quoted? (values : List Json) :
    values.mapM quoted? =
      if values.all fun value => (quoted? value).isSome
        then some (values.map fun value => (quoted? value).getD "") else none := by
  induction values with
  | nil => rfl
  | cons value rest ih =>
      rw [List.mapM_cons, ih, List.all_cons, List.map_cons]
      cases quoted? value with
      | none => rfl
      | some form =>
          cases rest.all fun value => (quoted? value).isSome
          · rfl
          · rfl

theorem sortedByForm?_eq (values : List Json) :
    sortedByForm? values =
      if values.all fun value => (quoted? value).isSome
        then some (((values.map keyed).mergeSort formLe).map (·.2)) else none := by
  have hkeyed : (values.map fun value => (quoted? value).getD "").zip values = values.map keyed := by
    rw [List.zip_map_left, List.zip_eq_zipWith, List.zipWith_self, List.map_map]
    rfl
  rw [sortedByForm?, mapM_quoted?]
  split
  · rw [Option.bind_eq_bind, Option.bind_some, hkeyed]
    rfl
  · rfl

theorem pairwise_formLe (values : List (String × Json)) :
    (values.mergeSort formLe).Pairwise fun first second => formLe first second = true := by
  refine List.pairwise_mergeSort (fun first second third hfirst hsecond => ?_) (fun first second => ?_) values
  · simp only [formLe, decide_eq_true_eq] at hfirst hsecond ⊢
    exact String.le_trans hfirst hsecond
  · simp only [formLe, Bool.or_eq_true, decide_eq_true_eq]
    exact String.le_total _ _

/-- Values that have forms can be sorted, and sorting keeps every value as often as it was given. -/
theorem exists_sortedByForm? {values : List Json}
    (hforms : ∀ value ∈ values, (quoted? value).isSome = true) :
    ∃ sorted, sortedByForm? values = some sorted ∧ sorted.Perm values := by
  refine ⟨_, by rw [sortedByForm?_eq, if_pos (List.all_eq_true.mpr hforms)], ?_⟩
  have hperm := (List.mergeSort_perm (values.map keyed) formLe).map (·.2)
  simpa [keyed, Function.comp_def] using hperm

/-- In which order values are given to be sorted does not matter: values that tie are equal. -/
theorem sortedByForm?_perm {values others : List Json} (hperm : values.Perm others) :
    sortedByForm? values = sortedByForm? others := by
  have hall : (values.all fun value => (quoted? value).isSome) =
      others.all fun value => (quoted? value).isSome := hperm.all_eq
  rw [sortedByForm?_eq, sortedByForm?_eq, hall]
  split
  · next hforms =>
      have hform {pair : String × Json} (hmem : pair ∈ (values.map keyed).mergeSort formLe) :
          quoted? pair.2 = some pair.1 := by
        obtain ⟨value, hvalue, rfl⟩ := List.mem_map.mp (List.mem_mergeSort.mp hmem)
        obtain ⟨form, hform⟩ :=
          Option.isSome_iff_exists.mp (List.all_eq_true.mp hforms value (hperm.mem_iff.mp hvalue))
        simp [keyed, hform]
      have hsame : ((values.map keyed).mergeSort formLe).Perm ((others.map keyed).mergeSort formLe) :=
        ((List.mergeSort_perm _ _).trans (hperm.map keyed)).trans (List.mergeSort_perm _ _).symm
      -- Two sorted lists of the same pairs are one, since pairs whose forms tie have the same value.
      have heq : (values.map keyed).mergeSort formLe = (others.map keyed).mergeSort formLe := by
        refine hsame.eq_of_pairwise (fun first second hfirst hsecond hle hge => ?_) (pairwise_formLe _)
          (pairwise_formLe _)
        simp only [formLe, decide_eq_true_eq] at hle hge
        have htie := String.le_antisymm hle hge
        have hsecondForm := hform (hsame.mem_iff.mpr hsecond)
        rw [← htie] at hsecondForm
        exact Prod.ext htie (quoted?_injective (hform hfirst) hsecondForm)
      rw [heq]
  · rfl

end TemplateWorkbench.Json
