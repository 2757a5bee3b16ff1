import TemplateWorkbench.Proofs.Markup.Reading
import TemplateWorkbench.Proofs.View.EngineViews

/-!
# What a fragment says

The fragment of an outcome is read back: which tags it has, which texts and which names of blocks.  The tags
depend on the view and on the shape of the outcome alone,

```text
a message            nothing further
a text or a tree     nothing further
tokens               the color of each of them
programs             how many instructions each block has
```

apart from the names of the blocks, which are values of an attribute.  The texts are those that are to be
shown, each alone in an element, and none of the strings can be taken for markup.

`Shows` says what a list of pieces adds to a fragment, wherever it stands.  It is shown for a single
element, kept by appending, and wrapped by the elements around it.
-/

namespace TemplateWorkbench

open Results
open Markup (Tag Parts openingTag closingTag addTo addAllTo)
open Text (pageReferences)

/-- The attribute that names a block. -/
def blockAttribute : List Char := "data-block".toList

/-- The names of blocks in attributes. -/
def namesIn (attributes : List MarkupAttribute) : List String :=
  (attributes.filter fun item => item.name.toList == blockAttribute).map (·.value.getD "")

/-! ### What pieces of markup add -/

/-- What is read later has gained texts, tags and names of blocks. -/
structure Adds (before after : Parts) (texts : List String) (tags : List Tag) (names : List String) :
    Prop where
  leaves : after.leaves = before.leaves ++ texts.map String.toList
  tags : after.tagsWithout blockAttribute = before.tagsWithout blockAttribute ++ tags
  names : after.valuesOf blockAttribute = before.valuesOf blockAttribute ++ names.map String.toList
  laid : before.IsLaid → after.IsLaid
  text : after.text = []
  closed : after.isOpened = false

/-- Pieces of markup show texts, with tags around them, and name blocks. -/
structure Shows (pieces : List Markup) (texts : List String) (tags : List Tag) (names : List String) :
    Prop where
  plain : Markup.allPlain pieces = true
  adds : ∀ before, Adds before (addAllTo before pieces) texts tags names

/-- The tags of an element around other tags. -/
def elementTags (tag : String) (attributes : List MarkupAttribute) (inner : List Tag) : List Tag :=
  (openingTag tag attributes).without blockAttribute :: inner ++ [closingTag tag]

section Elements

variable {tag : String} {attributes : List MarkupAttribute} {pieces others : List Markup}
  {texts texts' : List String} {tags tags' : List Tag} {names names' : List String}

theorem Adds.trans {first second third : Parts} (hfirst : Adds first second texts tags names)
    (hsecond : Adds second third texts' tags' names') :
    Adds first third (texts ++ texts') (tags ++ tags') (names ++ names') where
  leaves := by rw [hsecond.leaves, hfirst.leaves, List.append_assoc, List.map_append]
  tags := by rw [hsecond.tags, hfirst.tags, List.append_assoc]
  names := by rw [hsecond.names, hfirst.names, List.append_assoc, List.map_append]
  laid := hsecond.laid ∘ hfirst.laid
  text := hsecond.text
  closed := hsecond.closed

theorem addAllTo_append (parts : Parts) (pieces others : List Markup) :
    addAllTo parts (pieces ++ others) = addAllTo (addAllTo parts pieces) others := by
  induction pieces generalizing parts with
  | nil => rfl
  | cons piece rest ih => exact ih (addTo parts piece)

theorem allPlain_append (pieces others : List Markup) :
    Markup.allPlain (pieces ++ others) = (Markup.allPlain pieces && Markup.allPlain others) := by
  induction pieces with
  | nil => rfl
  | cons piece rest ih => rw [List.cons_append, Markup.allPlain, ih, Markup.allPlain, Bool.and_assoc]

theorem Shows.append (hpieces : Shows pieces texts tags names) (hothers : Shows others texts' tags' names') :
    Shows (pieces ++ others) (texts ++ texts') (tags ++ tags') (names ++ names') where
  plain := by rw [allPlain_append, hpieces.plain, hothers.plain, Bool.and_self]
  adds before := by
    rw [addAllTo_append]
    exact (hpieces.adds before).trans (hothers.adds _)

theorem isClosing_openingTag (hname : Markup.isName tag = true) :
    (openingTag tag attributes).isClosing = false := by
  rw [Tag.isClosing, openingTag, beq_eq_false_iff_ne]
  exact fun hhead => (Markup.ne_of_isName hname (List.mem_of_head? hhead)).2.2.2 rfl

theorem valuesOf_openingTag :
    (openingTag tag attributes).valuesOf blockAttribute = (namesIn attributes).map String.toList := by
  simp [openingTag, Tag.valuesOf, namesIn, List.filter_map, Function.comp_def]

/-- An element with nothing but a text shows it. -/
theorem shows_leaf (hname : Markup.isName tag = true)
    (hplain : attributes.all MarkupAttribute.isPlain = true) (content : String) :
    Shows [.element tag attributes [.text content]] [content] (elementTags tag attributes [])
      (namesIn attributes) where
  plain := by simp [Markup.allPlain, Markup.isPlain, hname, hplain]
  adds before := by
    have hopening : (openingTag tag attributes).isClosing = false := isClosing_openingTag hname
    have hclosing : (closingTag tag).isClosing = true := rfl
    -- The text stands between a tag that opens and one that closes, so it is not out of place.
    refine ⟨?_, ?_, ?_, fun hlaid => ?_, rfl, ?_⟩ <;> simp only [addAllTo, addTo]
    · simp [hopening, hclosing]
    · simp [elementTags, closingTag, Tag.without]
    · simp [valuesOf_openingTag]
    · have hopened : (before.addTag (openingTag tag attributes)).IsLaid :=
        Parts.isLaid_addTag hlaid.loose (.inr hlaid.text)
      refine Parts.isLaid_addTag hopened.loose (.inl ?_)
      simp [hopening, hclosing]
    · simp [hclosing]

/-- An element around elements shows what they show. -/
theorem Shows.element (hpieces : Shows pieces texts tags names) (hname : Markup.isName tag = true)
    (hplain : attributes.all MarkupAttribute.isPlain = true) :
    Shows [.element tag attributes pieces] texts (elementTags tag attributes tags)
      (namesIn attributes ++ names) where
  plain := by simp [Markup.allPlain, Markup.isPlain, hname, hplain, hpieces.plain]
  adds before := by
    have hopening : (openingTag tag attributes).isClosing = false := isClosing_openingTag hname
    have hclosing : (closingTag tag).isClosing = true := rfl
    have hinner := hpieces.adds (before.addTag (openingTag tag attributes))
    refine ⟨?_, ?_, ?_, fun hlaid => ?_, rfl, ?_⟩ <;> simp only [addAllTo, addTo]
    · simp [hinner.leaves, hinner.closed, hopening]
    · simp [hinner.tags, elementTags, closingTag, Tag.without]
    · simp [hinner.names, valuesOf_openingTag]
    · have hopened : (before.addTag (openingTag tag attributes)).IsLaid :=
        Parts.isLaid_addTag hlaid.loose (.inr hlaid.text)
      exact Parts.isLaid_addTag (hinner.laid hopened).loose (.inr (.inl hinner.text))
    · simp [hclosing]

/-- A line break between elements shows nothing. -/
theorem Shows.lineBreak (hpieces : Shows pieces texts tags names)
    (hothers : Shows others texts' tags' names') :
    Shows (pieces ++ .lineBreak :: others) (texts ++ texts') (tags ++ tags') (names ++ names') where
  plain := by
    rw [allPlain_append, Markup.allPlain, hpieces.plain, hothers.plain]
    rfl
  adds before := by
    have hfirst := hpieces.adds before
    rw [addAllTo_append]
    have hbroken := hothers.adds ((addAllTo before pieces).addText ['\n'])
    refine hfirst.trans ⟨hbroken.leaves, hbroken.tags, hbroken.names, fun hlaid => ?_, hbroken.text,
      hbroken.closed⟩
    refine hbroken.laid ⟨hlaid.loose, .inr ?_⟩
    rw [Parts.text_addText, hfirst.text, List.nil_append]

end Elements

/-! ### Tables -/

/-- The texts of a token: its span, its label and its value. -/
def PlacedEntry.shown (placed : PlacedEntry) : Except ProjectionFault (List String) := do
  pure [placed.span.text, placed.entry.label, ← placed.entry.valueCell]

/-- The texts of a numbered instruction: its number, its label and its value. -/
def instructionShown (number : Nat) (entry : Entry) : Except ProjectionFault (List String) := do
  pure [padNumber 4 number, entry.label, ← entry.valueCell]

/-- The texts of instructions, counted from a number on. -/
def instructionsShown (number : Nat) : List Entry → Except ProjectionFault (List String)
  | [] => .ok []
  | entry :: rest => do
    let texts ← instructionShown number entry
    pure (texts ++ (← instructionsShown (number + 1) rest))

/-- The tags of a row with three cells. -/
def rowTags (first second third : List MarkupAttribute) : List Tag :=
  elementTags "tr" [] (elementTags "td" first [] ++ elementTags "td" second [] ++ elementTags "td" third [])

/-- The tags of a row with a token of a color. -/
def tokenTags (color : String) : List Tag :=
  rowTags [.classes "tpg-span"] [.classes "tpg-token", .of "style" s!"color:{color};"]
    [.classes "tpg-payload"]

/-- The tags of a row with an instruction. -/
def instructionTags : List Tag := rowTags [] [.classes "tpg-op"] [.classes "tpg-payload"]

/-- The tags of a table with three columns around those of its rows. -/
def tableTags (rows : List Tag) : List Tag :=
  elementTags "table" [.classes "tpg-table"]
    (elementTags "tr" [] (elementTags "th" [] [] ++ elementTags "th" [] [] ++ elementTags "th" [] []) ++ rows)

/-- Attributes with values that name no blocks. -/
structure AreSilent (attributes : List MarkupAttribute) : Prop where
  plain : attributes.all MarkupAttribute.isPlain = true
  names : namesIn attributes = []

theorem areSilent_nil : AreSilent [] := ⟨rfl, rfl⟩

theorem AreSilent.cons {name : String} (hname : Markup.isName name = true)
    (hother : name.toList ≠ blockAttribute) (value : String) {rest : List MarkupAttribute}
    (hrest : AreSilent rest) : AreSilent (.of name value :: rest) where
  plain := by simp [MarkupAttribute.isPlain, MarkupAttribute.of, hname, hrest.plain]
  names := by
    rw [← hrest.names, namesIn, List.filter_cons_of_neg]
    · rfl
    · simpa [MarkupAttribute.of] using hother

theorem areSilent_classes (names : String) : AreSilent [.classes names] :=
  areSilent_nil.cons (by decide) (by decide) names

theorem areSilent_styled (names style : String) : AreSilent [.classes names, .of "style" style] :=
  (areSilent_nil.cons (by decide) (by decide) style).cons (by decide) (by decide) names

theorem shows_silentLeaf {tag : String} (hname : Markup.isName tag = true) {attributes : List MarkupAttribute}
    (hsilent : AreSilent attributes) (content : String) :
    Shows [.element tag attributes [.text content]] [content] (elementTags tag attributes []) [] := by
  have hleaf := shows_leaf hname hsilent.plain content
  rw [hsilent.names] at hleaf
  exact hleaf

theorem Shows.silent {pieces : List Markup} {texts : List String} {tags : List Tag} {names : List String}
    (hpieces : Shows pieces texts tags names) {tag : String} (hname : Markup.isName tag = true)
    {attributes : List MarkupAttribute} (hsilent : AreSilent attributes) :
    Shows [.element tag attributes pieces] texts (elementTags tag attributes tags) names := by
  have helement := hpieces.element hname hsilent.plain
  rw [hsilent.names] at helement
  exact helement

theorem shows_row {first second third : List MarkupAttribute} (hfirst : AreSilent first)
    (hsecond : AreSilent second) (hthird : AreSilent third) (a b c : String) :
    Shows [.element "tr" [] [cell first a, cell second b, cell third c]] [a, b, c]
      (rowTags first second third) [] := by
  have hcell {attributes : List MarkupAttribute} (hsilent : AreSilent attributes) (content : String) :
      Shows [cell attributes content] [content] (elementTags "td" attributes []) [] :=
    shows_silentLeaf (by decide) hsilent content
  exact (((hcell hfirst a).append (hcell hsecond b)).append (hcell hthird c)).silent (by decide)
    areSilent_nil

theorem PlacedEntry.shows_row {placed : PlacedEntry} {row : Markup} (hrow : placed.row = .ok row) :
    ∃ texts, placed.shown = .ok texts ∧
      Shows [row] texts (tokenTags (tokenColor placed.entry.label)) [] := by
  obtain ⟨value, hvalue, hmarkup⟩ := bind_eq_ok_iff.mp hrow
  cases hmarkup
  refine ⟨[placed.span.text, placed.entry.label, value], ?_, ?_⟩
  · rw [shown, hvalue]
    rfl
  · exact TemplateWorkbench.shows_row (areSilent_classes _) (areSilent_styled _ _) (areSilent_classes _)
      _ _ _

theorem shows_instructionRow {number : Nat} {entry : Entry} {row : Markup}
    (hrow : instructionRow number entry = .ok row) :
    ∃ texts, instructionShown number entry = .ok texts ∧ Shows [row] texts instructionTags [] := by
  obtain ⟨value, hvalue, hmarkup⟩ := bind_eq_ok_iff.mp hrow
  cases hmarkup
  refine ⟨[padNumber 4 number, entry.label, value], ?_, ?_⟩
  · rw [instructionShown, hvalue]
    rfl
  · exact shows_row areSilent_nil (areSilent_classes _) (areSilent_classes _) _ _ _

section Rows

variable {first : Markup} {texts : List String} {tags : List Tag}

/-- Rows with tokens go on after a row. -/
theorem shows_tokenRows (hfirst : Shows [first] texts tags []) {entries : List PlacedEntry}
    {rows : List Markup} (hrows : List.Forall₂ (fun placed row => placed.row = .ok row) entries rows) :
    ∃ shown, entries.mapM PlacedEntry.shown = .ok shown ∧
      Shows (first :: rows) (texts ++ shown.flatten)
        (tags ++ entries.flatMap fun placed => tokenTags (tokenColor placed.entry.label)) [] := by
  induction hrows generalizing first texts tags with
  | nil => exact ⟨[], rfl, by simpa using hfirst⟩
  | @cons placed row entries rows hrow _ ih =>
      obtain ⟨own, hown, hshows⟩ := placed.shows_row hrow
      obtain ⟨others, hothers, hall⟩ := ih hshows
      refine ⟨own :: others, ?_, ?_⟩
      · rw [List.mapM_cons, hown, hothers]
        rfl
      · exact hfirst.append hall

/-- Rows with instructions go on after a row. -/
theorem shows_instructionRows (hfirst : Shows [first] texts tags []) {number : Nat} {entries : List Entry}
    {rows : List Markup} (hrows : instructionRows number entries = .ok rows) :
    ∃ shown, instructionsShown number entries = .ok shown ∧
      Shows (first :: rows) (texts ++ shown)
        (tags ++ (List.replicate entries.length instructionTags).flatten) [] := by
  induction entries generalizing first texts tags number rows with
  | nil =>
      cases hrows
      exact ⟨[], rfl, by simpa using hfirst⟩
  | cons entry rest ih =>
      obtain ⟨row, hrow, hrows⟩ := bind_eq_ok_iff.mp hrows
      obtain ⟨others, hothers, hrows⟩ := bind_eq_ok_iff.mp hrows
      cases hrows
      obtain ⟨own, hown, hshows⟩ := shows_instructionRow hrow
      obtain ⟨shown, hshown, hall⟩ := ih hshows hothers
      refine ⟨own ++ shown, ?_, ?_⟩
      · rw [instructionsShown, hown, hshown]
        rfl
      · exact hfirst.append hall

end Rows

/-- The row with the titles of a table. -/
theorem shows_titles (a b c : String) :
    Shows [.element "tr" [] ([a, b, c].map fun title => Markup.element "th" [] [.text title])] [a, b, c]
      (elementTags "tr" [] (elementTags "th" [] [] ++ elementTags "th" [] [] ++ elementTags "th" [] []))
      [] := by
  have hcell (title : String) : Shows [.element "th" [] [.text title]] [title] (elementTags "th" [] []) [] :=
    shows_silentLeaf (by decide) areSilent_nil title
  exact (((hcell a).append (hcell b)).append (hcell c)).silent (by decide) areSilent_nil

/-! ### Blocks -/

/-- The texts of a block: its name, the titles of its table and its instructions. -/
def blockShown (block : String × List Entry) : Except ProjectionFault (List String) := do
  pure ([block.1, "#", "Op", "Arg"] ++ (← instructionsShown 0 block.2))

/-- The tags of a block with a number of instructions. -/
def blockTags (length : Nat) : List Tag :=
  elementTags "div" [.classes "tpg-block", .of "data-block" ""]
    (elementTags "div" [.classes "tpg-block-title"] [] ++
      tableTags (List.replicate length instructionTags).flatten)

/-- An element that is marked with the name of a block names it. -/
theorem Shows.block {pieces : List Markup} {texts : List String} {tags : List Tag}
    (hpieces : Shows pieces texts tags []) (classes name : String) :
    Shows [.element "div" [.classes classes, .of "data-block" name] pieces] texts
      (elementTags "div" [.classes classes, .of "data-block" ""] tags) [name] := by
  have hplain : [MarkupAttribute.classes classes, .of "data-block" name].all
      MarkupAttribute.isPlain = true := by
    have hclass : Markup.isName "class" = true := by decide
    have hblock : Markup.isName "data-block" = true := by decide
    simp [MarkupAttribute.isPlain, MarkupAttribute.classes, MarkupAttribute.of, hclass, hblock]
  have helement := hpieces.element (by decide : Markup.isName "div" = true) hplain
  have hnames : namesIn [.classes classes, .of "data-block" name] ++ [] = [name] := by
    have hclass : ("class".toList == blockAttribute) = false := by decide
    have hblock : ("data-block".toList == blockAttribute) = true := beq_self_eq_true blockAttribute
    simp only [namesIn, MarkupAttribute.classes, MarkupAttribute.of, List.filter_cons, hclass, hblock,
      Bool.false_eq_true, if_false, if_true, List.filter_nil, List.map_cons, List.map_nil,
      Option.getD_some, List.append_nil]
  have htags : elementTags "div" [.classes classes, .of "data-block" name] tags =
      elementTags "div" [.classes classes, .of "data-block" ""] tags := by
    have hsame : "data-block".toList = blockAttribute := rfl
    simp only [elementTags, openingTag, Tag.without, MarkupAttribute.of, List.map_cons, List.map_nil, hsame,
      if_true]
  rw [hnames, htags] at helement
  exact helement

theorem shows_blockMarkup {block : String × List Entry} {markup : Markup}
    (hblock : blockMarkup block = .ok markup) :
    ∃ texts, blockShown block = .ok texts ∧
      Shows [markup] texts (blockTags block.2.length) [block.1] := by
  obtain ⟨rows, hrows, hmarkup⟩ := bind_eq_ok_iff.mp hblock
  cases hmarkup
  obtain ⟨shown, hshown, hall⟩ := shows_instructionRows (shows_titles "#" "Op" "Arg") hrows
  refine ⟨[block.1, "#", "Op", "Arg"] ++ shown, ?_, ?_⟩
  · rw [blockShown, hshown]
    rfl
  · have htitle := shows_silentLeaf (by decide : Markup.isName "div" = true)
      (areSilent_classes "tpg-block-title") block.1
    have htable := hall.silent (by decide : Markup.isName "table" = true) (areSilent_classes "tpg-table")
    exact (htitle.append htable).block "tpg-block" block.1

/-- Blocks stand one under the other. -/
theorem shows_blocks {block : String × List Entry} {blocks : List (String × List Entry)}
    {markups : List Markup}
    (hblocks : List.Forall₂ (fun block markup => blockMarkup block = .ok markup) (block :: blocks) markups) :
    ∃ shown, (block :: blocks).mapM blockShown = .ok shown ∧
      Shows (markups.intersperse .lineBreak) shown.flatten
        ((block :: blocks).flatMap fun block => blockTags block.2.length)
        ((block :: blocks).map (·.1)) := by
  -- A line break stands before every block but the first, so the first one is kept apart.
  induction blocks generalizing block markups with
  | nil =>
      obtain ⟨markup, rest, hmarkup, hrest, rfl⟩ := List.forall₂_cons_left_iff.mp hblocks
      cases hrest
      obtain ⟨own, hown, hshows⟩ := shows_blockMarkup hmarkup
      refine ⟨[own], ?_, by simpa using hshows⟩
      rw [List.mapM_cons, hown]
      rfl
  | cons second blocks ih =>
      obtain ⟨markup, rest, hmarkup, hrest, rfl⟩ := List.forall₂_cons_left_iff.mp hblocks
      obtain ⟨own, hown, hshows⟩ := shows_blockMarkup hmarkup
      obtain ⟨shown, hshown, hall⟩ := ih hrest
      refine ⟨own :: shown, ?_, ?_⟩
      · rw [List.mapM_cons, hown, hshown]
        rfl
      · cases hrest
        exact hshows.lineBreak hall

/-! ### Outcomes -/

/-- What the tags of a payload depend on. -/
inductive Payload.Shape where
  | text
  | tokens (colors : List String)
  | blocks (lengths : List Nat)
deriving DecidableEq, Repr

namespace Payload

/-- The shape of a payload. -/
def shape : Payload → Shape
  | rendered _ | tree _ => .text
  | tokens entries => .tokens (entries.map fun placed => tokenColor placed.entry.label)
  | programs blocks => .blocks (blocks.map (·.2.length))

/-- The tags of a payload of a shape. -/
def Shape.tags : Shape → List Tag
  | text => elementTags "pre" [.classes "tpg-pre"] []
  | tokens colors => tableTags (colors.flatMap tokenTags)
  | blocks lengths => lengths.flatMap blockTags

/-- The texts that a payload shows; programs without blocks show an empty one. -/
def shown : Payload → Except ProjectionFault (List String)
  | rendered text => .ok [text]
  | tokens entries => do
    pure (["Span", "Token", "Value"] ++ (← entries.mapM PlacedEntry.shown).flatten)
  | tree root => (outlineText root).map ([·])
  | programs [] => .ok [""]
  | programs (block :: blocks) => do
    pure (← (block :: blocks).mapM blockShown).flatten

end Payload

namespace Outcome

/-- What the tags of a fragment depend on apart from the view. -/
def shape (outcome : Outcome Payload) : OutcomeKind × Option Payload.Shape :=
  (outcome.kind, outcome.payload?.map Payload.shape)

/-- The texts that an outcome shows. -/
def shown : Outcome Payload → Except ProjectionFault (List String)
  | success payload => payload.shown
  | outcome => .ok [outcome.message]

/-- The names of the blocks that an outcome shows. -/
def blockNames : Outcome Payload → List String
  | success (.programs blocks) => blocks.map (·.1)
  | _ => []

end Outcome

/-- The tags of a fragment in a view, of an outcome of a shape. -/
def fragmentTags (view : ViewMode) (shape : OutcomeKind × Option Payload.Shape) : List Tag :=
  elementTags "div"
    [.classes s!"tpg-output {shape.1.styleClass}", .of "data-view" view.name,
      .of "data-result" shape.1.name]
    ((shape.2.map Payload.Shape.tags).getD [])

theorem areSilent_output (classes view result : String) :
    AreSilent [.classes classes, .of "data-view" view, .of "data-result" result] :=
  ((areSilent_nil.cons (by decide) (by decide) result).cons (by decide) (by decide) view).cons
    (by decide) (by decide) classes

/-- An element without anything in it shows the empty text. -/
theorem shows_empty {tag : String} (hname : Markup.isName tag = true) {attributes : List MarkupAttribute}
    (hsilent : AreSilent attributes) :
    Shows [.element tag attributes []] [""] (elementTags tag attributes []) [] := by
  have hleaf := shows_silentLeaf hname hsilent ""
  refine ⟨hleaf.plain, fun before => ?_⟩
  have hadds := hleaf.adds before
  simp only [addAllTo, addTo, Parts.addText, String.toList_empty, List.append_nil] at hadds ⊢
  exact hadds

theorem Payload.shows_markup {payload : Payload} {body : List Markup} (hmarkup : payload.markup = .ok body)
    {attributes : List MarkupAttribute} (hsilent : AreSilent attributes) :
    ∃ texts, payload.shown = .ok texts ∧
      Shows [.element "div" attributes body] texts (elementTags "div" attributes payload.shape.tags)
        (Outcome.blockNames (.success payload)) := by
  have hdiv : Markup.isName "div" = true := by decide
  have hpre (text : String) : Shows [.element "div" attributes [preformatted text]] [text]
      (elementTags "div" attributes Shape.text.tags) [] :=
    (shows_silentLeaf (by decide) (areSilent_classes "tpg-pre") text).silent hdiv hsilent
  cases payload with
  | rendered text =>
      cases hmarkup
      exact ⟨[text], rfl, hpre text⟩
  | tokens entries =>
      obtain ⟨rows, hrows, hbody⟩ := bind_eq_ok_iff.mp hmarkup
      cases hbody
      obtain ⟨shown, hshown, hall⟩ :=
        shows_tokenRows (shows_titles "Span" "Token" "Value") (forall₂_of_mapM_eq_ok hrows)
      refine ⟨["Span", "Token", "Value"] ++ shown.flatten, ?_, ?_⟩
      · rw [Payload.shown, hshown]
        rfl
      · have htable := (hall.silent (by decide : Markup.isName "table" = true)
          (areSilent_classes "tpg-table")).silent hdiv hsilent
        simp only [shape, Shape.tags, List.flatMap_map]
        exact htable
  | tree root =>
      obtain ⟨text, htext, hbody⟩ := map_eq_ok_iff.mp hmarkup
      cases hbody
      refine ⟨[text], ?_, hpre text⟩
      rw [Payload.shown, htext]
      rfl
  | programs blocks =>
      obtain ⟨markups, hmarkups, hbody⟩ := bind_eq_ok_iff.mp hmarkup
      cases hbody
      have hall := forall₂_of_mapM_eq_ok hmarkups
      -- Without a block the fragment still shows one text, which is empty.
      cases blocks with
      | nil =>
          cases hall
          exact ⟨[""], rfl, shows_empty hdiv hsilent⟩
      | cons block blocks =>
          obtain ⟨shown, hshown, hshows⟩ := shows_blocks hall
          refine ⟨shown.flatten, ?_, ?_⟩
          · rw [Payload.shown, hshown]
            rfl
          · have hblocks := hshows.silent hdiv hsilent
            simp only [shape, Shape.tags, List.flatMap_map]
            exact hblocks

/-- The markup of an outcome shows the texts of the outcome, with the tags of its shape around them. -/
theorem Outcome.shows_markup {view : ViewMode} {outcome : Outcome Payload} {markup : Markup}
    (hmarkup : outcome.markup view = .ok markup) :
    ∃ texts, outcome.shown = .ok texts ∧
      Shows [markup] texts (fragmentTags view outcome.shape) outcome.blockNames := by
  cases outcome with
  | success payload =>
      obtain ⟨body, hbody, hmarkup⟩ := bind_eq_ok_iff.mp hmarkup
      cases hmarkup
      exact Payload.shows_markup hbody (areSilent_output _ _ _)
  | engineError message | contextError message =>
      cases hmarkup
      exact ⟨[message], rfl, shows_silentLeaf (by decide) (areSilent_output _ _ _) message⟩

/-! ### Fragments -/

/-- What a fragment is read as says what an outcome says, and no more. -/
structure Markup.Parts.Tells (parts : Parts) (view : ViewMode) (outcome : Outcome Payload) : Prop where
  /-- No string can be taken for markup. -/
  inert : ∀ string ∈ parts.strings, Text.IsInert string
  /-- The elements hold the texts that are to be shown. -/
  texts : ∃ texts, outcome.shown = .ok texts ∧
    parts.leaves.map Text.unescape = texts.map String.toList
  /-- Between the elements there is nothing. -/
  laid : parts.IsLaid
  /-- The names of the blocks are as they were. -/
  names : (parts.valuesOf blockAttribute).map Text.unescape = outcome.blockNames.map String.toList
  /-- All else in the tags depends on the view and the shape. -/
  tags : parts.tagsWithout blockAttribute =
    (fragmentTags view outcome.shape).map (Tag.map pageReferences.escapeChars)

theorem Markup.Parts.IsLaid.escaped {parts : Parts} (hlaid : parts.IsLaid) : parts.escaped.IsLaid := by
  have hkept {text : List Char} (htext : text = [] ∨ text = ['\n']) :
      pageReferences.escapeChars text = [] ∨ pageReferences.escapeChars text = ['\n'] := by
    rcases htext with rfl | rfl
    · exact .inl rfl
    · exact .inr rfl
  refine ⟨fun text hmem => ?_, hkept hlaid.text⟩
  rw [Parts.escaped, Parts.loose_map] at hmem
  obtain ⟨raw, hraw, rfl⟩ := List.mem_map.mp hmem
  exact hkept (hlaid.loose raw hraw)

/-- Every outcome that can be written has a fragment, and a fragment is read as what its outcome says: the
texts and the names of blocks come out of it as they went in, and whatever they are, the tags are those of
the view and the shape of the outcome. -/
theorem Outcome.html_tells (view : ViewMode) (outcome : Outcome Payload) :
    (outcome.IsWritable → (outcome.html view).isOk = true) ∧
      ∀ html, outcome.html view = .ok html →
        ∃ parts, Markup.read? html.toList = some parts ∧ parts.Tells view outcome := by
  refine ⟨fun hwritable => isOk_map.trans (hwritable.isOk_markup view), fun html hhtml => ?_⟩
  obtain ⟨markup, hmarkup, rfl⟩ := map_eq_ok_iff.mp hhtml
  obtain ⟨texts, htexts, hshows⟩ := Outcome.shows_markup hmarkup
  have hplain : markup.isPlain = true := ((Bool.and_eq_true _ _).mp hshows.plain).1
  have hadds : Adds ⟨[], []⟩ markup.parts texts (fragmentTags view outcome.shape) outcome.blockNames :=
    hshows.adds ⟨[], []⟩
  -- The fragment is read as the parts of the tree, each string escaped; unescaping gives the strings back.
  have hunescape (raw : List (List Char)) :
      (raw.map pageReferences.escapeChars).map Text.unescape = raw := by
    simp [Function.comp_def]
  refine ⟨markup.parts.escaped, Markup.read?_written hplain, ?_, ⟨texts, htexts, ?_⟩, ?_, ?_, ?_⟩
  · intro string hstring
    rw [Parts.escaped, Parts.strings_map] at hstring
    obtain ⟨raw, -, rfl⟩ := List.mem_map.mp hstring
    exact Text.isInert_escapeChars raw
  · rw [Parts.escaped, Parts.leaves_map, hunescape, hadds.leaves]
    rfl
  · exact (hadds.laid Parts.isLaid_nil).escaped
  · rw [Parts.escaped, Parts.valuesOf_map, hunescape, hadds.names]
    rfl
  · rw [Parts.escaped, Parts.tagsWithout_map _ _ _ rfl, hadds.tags]
    rfl

/-- Programs with names and values that look like markup. -/
def taggedPrograms : Outcome Payload :=
  .success (.programs [("\"><script>", [⟨"</td>", some (.string "&lt;")⟩])])

/-- They are shown as they are. -/
theorem Outcome.html_tells_tagged :
    ∃ html parts, taggedPrograms.html .instructions = .ok html ∧ Markup.read? html.toList = some parts ∧
      (∀ string ∈ parts.strings, Text.IsInert string) ∧
      parts.leaves.map Text.unescape =
        ["\"><script>", "#", "Op", "Arg", "   0", "</td>", "\"&lt;\""].map String.toList ∧
      (parts.valuesOf blockAttribute).map Text.unescape = ["\"><script>".toList] := by
  obtain ⟨hwritten, hread⟩ := Outcome.html_tells .instructions taggedPrograms
  have hwritable : taggedPrograms.IsWritable := by
    intro payload hpayload
    cases hpayload
    exact ⟨rfl, rfl⟩
  have hshown : taggedPrograms.shown =
      .ok ["\"><script>", "#", "Op", "Arg", "   0", "</td>", "\"&lt;\""] := by
    decide
  obtain ⟨html, hhtml⟩ := exists_of_isOk (hwritten hwritable)
  obtain ⟨parts, hparts, htells⟩ := hread html hhtml
  obtain ⟨texts, htexts, hleaves⟩ := htells.texts
  cases hshown.symm.trans htexts
  exact ⟨html, parts, hhtml, hparts, htells.inert, hleaves, htells.names⟩

end TemplateWorkbench
