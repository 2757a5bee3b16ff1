import TemplateWorkbench.Markup.Basic
import TemplateWorkbench.Proofs.Text.Escaping

/-!
# Reading markup

A reader goes over the characters of markup and splits them into tags and the texts around them.  It knows
nothing of the tree that was written; a tag begins at an angle bracket in a text and ends at the next one
outside of quotes, and whatever the reader does not understand makes it give up.

The reader is a machine that takes one character after another, so what it reads of two texts after each
other is put together from what it reads of each.  A piece of markup has parts of its own, read off its
tree.  Read back from its characters, it has the same parts, each text and each value of an attribute
being escaped.
-/

namespace TemplateWorkbench

open Text (pageReferences)

namespace Markup

/-! ### Tags and texts -/

/-- A tag; the name of a closing tag begins with a slash. -/
structure Tag where
  name : List Char
  attributes : List (List Char × List Char)
deriving DecidableEq, Repr

/-- Tags, each with the text before it, and the text after the last of them. -/
structure Parts where
  tags : List (List Char × Tag)
  text : List Char
deriving DecidableEq, Repr

namespace Tag

/-- The tag with an attribute more. -/
def addAttribute (tag : Tag) (name value : List Char) : Tag :=
  ⟨tag.name, tag.attributes ++ [(name, value)]⟩

/-- The tag with the values of its attributes changed. -/
def map (f : List Char → List Char) (tag : Tag) : Tag :=
  ⟨tag.name, tag.attributes.map fun item => (item.1, f item.2)⟩

/-- Whether the tag closes an element. -/
def isClosing (tag : Tag) : Bool := tag.name.head? == some '/'

@[simp] theorem isClosing_map (f : List Char → List Char) (tag : Tag) :
    (tag.map f).isClosing = tag.isClosing := rfl

end Tag

namespace Parts

/-- The parts with more text after them. -/
def addText (parts : Parts) (text : List Char) : Parts := ⟨parts.tags, parts.text ++ text⟩

/-- The parts with a tag after them. -/
def addTag (parts : Parts) (tag : Tag) : Parts := ⟨parts.tags ++ [(parts.text, tag)], []⟩

/-- The parts with every text and every value of an attribute changed. -/
def map (f : List Char → List Char) (parts : Parts) : Parts :=
  ⟨parts.tags.map fun item => (f item.1, item.2.map f), f parts.text⟩

/-- The texts and the values of the attributes. -/
def strings (parts : Parts) : List (List Char) :=
  parts.text :: parts.tags.flatMap fun item => item.1 :: item.2.attributes.map (·.2)

end Parts

/-! ### The reader -/

/-- Where a reader is. -/
inductive Place where
  | text
  /-- In the name of a tag. -/
  | name (name : List Char)
  /-- In the name of an attribute. -/
  | attribute (tag : Tag) (name : List Char)
  /-- After the sign between the name of an attribute and its value. -/
  | assigned (tag : Tag) (name : List Char)
  /-- In the value of an attribute. -/
  | value (tag : Tag) (name value : List Char)
  /-- After the value of an attribute. -/
  | closed (tag : Tag)

/-- What a reader has read, and where it is. -/
structure Reader where
  parts : Parts
  place : Place

/-- What a character makes of a reader. -/
def step (reader : Reader) (c : Char) : Option Reader :=
  let parts := reader.parts
  match reader.place with
  | .text => some (if c = '<' then ⟨parts, .name []⟩ else ⟨parts.addText [c], .text⟩)
  | .name name =>
    if c = '>' then some ⟨parts.addTag ⟨name, []⟩, .text⟩
    else if c = ' ' then some ⟨parts, .attribute ⟨name, []⟩ []⟩
    else some ⟨parts, .name (name ++ [c])⟩
  | .attribute tag name =>
    if c = '=' then some ⟨parts, .assigned tag name⟩
    else if c = '>' then some ⟨parts.addTag (tag.addAttribute name []), .text⟩
    else if c = ' ' then some ⟨parts, .attribute (tag.addAttribute name []) []⟩
    else some ⟨parts, .attribute tag (name ++ [c])⟩
  | .assigned tag name => if c = '"' then some ⟨parts, .value tag name []⟩ else none
  | .value tag name value =>
    if c = '"' then some ⟨parts, .closed (tag.addAttribute name value)⟩
    else some ⟨parts, .value tag name (value ++ [c])⟩
  | .closed tag =>
    if c = '>' then some ⟨parts.addTag tag, .text⟩
    else if c = ' ' then some ⟨parts, .attribute tag []⟩
    else none

/-- The parts that characters are read as. -/
def read? (characters : List Char) : Option Parts :=
  match characters.foldlM step ⟨⟨[], []⟩, .text⟩ with
  | some ⟨parts, .text⟩ => some parts
  | _ => none

/-! ### The parts of a tree -/

/-- Whether a name is made of letters, digits and dashes. -/
def isName (name : String) : Bool := name.toList.all fun c => c.isAlphanum || c == '-'

end Markup

/-- Whether an attribute has a name and a value. -/
def MarkupAttribute.isPlain (item : MarkupAttribute) : Bool := Markup.isName item.name && item.value.isSome

namespace Markup

mutual

/-- Whether a piece of markup has no parts but elements with names and texts. -/
def isPlain : Markup → Bool
  | text _ => true
  | verbatim _ => false
  | element tag attributes children =>
    isName tag && attributes.all MarkupAttribute.isPlain && allPlain children

/-- Whether pieces of markup have no parts but elements with names and texts. -/
def allPlain : List Markup → Bool
  | [] => true
  | piece :: rest => piece.isPlain && allPlain rest

end

/-- The tag that opens an element. -/
def openingTag (tag : String) (attributes : List MarkupAttribute) : Tag :=
  ⟨tag.toList, attributes.map fun item => (item.name.toList, (item.value.getD "").toList)⟩

/-- The tag that closes an element. -/
def closingTag (tag : String) : Tag := ⟨'/' :: tag.toList, []⟩

mutual

/-- The parts with those of a piece of markup after them. -/
def addTo (parts : Parts) : Markup → Parts
  | text content | verbatim content => parts.addText content.toList
  | element tag attributes children =>
    (addAllTo (parts.addTag (openingTag tag attributes)) children).addTag (closingTag tag)

/-- The parts with those of pieces of markup after them. -/
def addAllTo (parts : Parts) : List Markup → Parts
  | [] => parts
  | piece :: rest => addAllTo (addTo parts piece) rest

end

/-- The parts of a piece of markup. -/
def parts (piece : Markup) : Parts := addTo ⟨[], []⟩ piece

/-! ### Reading what was written -/

namespace Parts

/-- The parts as they are written. -/
def escaped (parts : Parts) : Parts := parts.map pageReferences.escapeChars

theorem escaped_addText (parts : Parts) (text : List Char) :
    (parts.addText text).escaped = parts.escaped.addText (pageReferences.escapeChars text) := by
  simp [escaped, map, addText, Text.References.escapeChars]

theorem escaped_addTag (parts : Parts) (tag : Tag) :
    (parts.addTag tag).escaped = parts.escaped.addTag (tag.map pageReferences.escapeChars) := by
  simp [escaped, map, addTag, Text.References.escapeChars]

end Parts

section Runs

variable {parts : Parts} {characters : List Char}

theorem foldlM_text (hplain : ∀ c ∈ characters, c ≠ '<') :
    characters.foldlM step ⟨parts, .text⟩ = some ⟨parts.addText characters, .text⟩ := by
  induction characters generalizing parts with
  | nil => simp [Parts.addText]
  | cons c rest ih =>
      obtain ⟨hc, hrest⟩ := List.forall_mem_cons.mp hplain
      rw [List.foldlM_cons, step]
      simp [hc, ih hrest, Parts.addText]

/-- Where each of the characters is added to what has been kept, all of them are. -/
theorem foldlM_kept (place : List Char → Place) (kept : List Char)
    (hstep : ∀ c ∈ characters, ∀ kept,
      step ⟨parts, place kept⟩ c = some ⟨parts, place (kept ++ [c])⟩) :
    characters.foldlM step ⟨parts, place kept⟩ = some ⟨parts, place (kept ++ characters)⟩ := by
  induction characters generalizing kept with
  | nil => simp
  | cons c rest ih =>
      obtain ⟨hc, hrest⟩ := List.forall_mem_cons.mp hstep
      rw [List.foldlM_cons, hc kept, Option.bind_eq_bind, Option.bind_some, ih (kept ++ [c]) hrest,
        List.append_assoc, List.singleton_append]

theorem foldlM_name {name : List Char} (hname : ∀ c ∈ characters, c ≠ '>' ∧ c ≠ ' ') :
    characters.foldlM step ⟨parts, .name name⟩ = some ⟨parts, .name (name ++ characters)⟩ :=
  foldlM_kept .name name fun c hc kept => by simp [step, hname c hc]

theorem foldlM_attribute {tag : Tag} {name : List Char}
    (hname : ∀ c ∈ characters, c ≠ '=' ∧ c ≠ '>' ∧ c ≠ ' ') :
    characters.foldlM step ⟨parts, .attribute tag name⟩ =
      some ⟨parts, .attribute tag (name ++ characters)⟩ :=
  foldlM_kept (.attribute tag) name fun c hc kept => by simp [step, hname c hc]

theorem foldlM_value {tag : Tag} {name value : List Char} (hplain : ∀ c ∈ characters, c ≠ '"') :
    characters.foldlM step ⟨parts, .value tag name value⟩ =
      some ⟨parts, .value tag name (value ++ characters)⟩ :=
  foldlM_kept (.value tag name) value fun c hc kept => by simp [step, hplain c hc]

end Runs

theorem isName_iff {name : String} :
    isName name = true ↔ ∀ c ∈ name.toList, c.isAlphanum = true ∨ c = '-' := by
  simp [isName]

/-- A name holds none of the characters that end one. -/
theorem ne_of_isName {name : String} (hname : isName name = true) {c : Char} (hc : c ∈ name.toList) :
    c ≠ '=' ∧ c ≠ '>' ∧ c ≠ ' ' ∧ c ≠ '/' := by
  rcases isName_iff.mp hname c hc with hc | rfl
  · refine ⟨?_, ?_, ?_, ?_⟩ <;> (rintro rfl; exact absurd hc (by decide))
  · decide

/-- An attribute is read after another one or after the name of the tag. -/
theorem foldlM_write_attribute {item : MarkupAttribute} (hplain : item.isPlain = true) {parts : Parts}
    {reader : Reader} {tag : Tag} (hspace : step reader ' ' = some ⟨parts, .attribute tag []⟩) :
    item.write.foldlM step reader = some ⟨parts, .closed (tag.addAttribute item.name.toList
      (pageReferences.escapeChars (item.value.getD "").toList))⟩ := by
  obtain ⟨name, value⟩ := item
  obtain ⟨hname, hvalue⟩ := (Bool.and_eq_true _ _).mp hplain
  obtain ⟨value, rfl⟩ := Option.isSome_iff_exists.mp hvalue
  have hnames : ∀ c ∈ name.toList, c ≠ '=' ∧ c ≠ '>' ∧ c ≠ ' ' := fun c hc =>
    have ⟨hequals, hbracket, hblank, _⟩ := ne_of_isName hname hc
    ⟨hequals, hbracket, hblank⟩
  have hquotes : ∀ c ∈ pageReferences.escapeChars value.toList, c ≠ '"' := fun c hc =>
    ((Text.isInert_escapeChars _).plain c hc).2.2.1
  have hnamed : (' ' :: name.toList).foldlM step reader = some ⟨parts, .attribute tag name.toList⟩ := by
    simp [hspace, foldlM_attribute hnames]
  have hvalued : ('=' :: '"' :: pageReferences.escapeChars value.toList).foldlM step
      ⟨parts, .attribute tag name.toList⟩ =
        some ⟨parts, .value tag name.toList (pageReferences.escapeChars value.toList)⟩ := by
    simp [step, foldlM_value hquotes]
  have hwritten : MarkupAttribute.write ⟨name, some value⟩ =
      (' ' :: name.toList) ++ (('=' :: '"' :: pageReferences.escapeChars value.toList) ++ ['"']) := by
    simp [MarkupAttribute.write]
  rw [hwritten, List.foldlM_append, hnamed, Option.bind_eq_bind, Option.bind_some, List.foldlM_append,
    hvalued]
  rfl

/-- The attributes of a tag are read one after another, and then its end. -/
theorem foldlM_write_attributes {attributes : List MarkupAttribute}
    (hplain : ∀ item ∈ attributes, item.isPlain = true) {parts : Parts} {reader : Reader} {tag : Tag}
    (hspace : step reader ' ' = some ⟨parts, .attribute tag []⟩)
    (hend : step reader '>' = some ⟨parts.addTag tag, .text⟩) :
    (attributes.flatMap MarkupAttribute.write ++ ['>']).foldlM step reader =
      some ⟨parts.addTag ⟨tag.name, tag.attributes ++ attributes.map fun item =>
        (item.name.toList, pageReferences.escapeChars (item.value.getD "").toList)⟩, .text⟩ := by
  induction attributes generalizing reader tag with
  | nil => simp [hend]
  | cons item rest ih =>
      obtain ⟨hitem, hrest⟩ := List.forall_mem_cons.mp hplain
      rw [List.flatMap_cons, List.append_assoc, List.foldlM_append, foldlM_write_attribute hitem hspace]
      refine (ih hrest rfl rfl).trans ?_
      simp [Tag.addAttribute]

/-- The tag that opens an element is read as it is. -/
theorem foldlM_write_opening {tag : String} (hname : isName tag = true)
    {attributes : List MarkupAttribute} (hplain : ∀ item ∈ attributes, item.isPlain = true)
    (parts : Parts) :
    ('<' :: tag.toList ++ (attributes.flatMap MarkupAttribute.write ++ ['>'])).foldlM step
        ⟨parts, .text⟩ =
      some ⟨parts.addTag ((openingTag tag attributes).map pageReferences.escapeChars), .text⟩ := by
  have hnames : ∀ c ∈ tag.toList, c ≠ '>' ∧ c ≠ ' ' := fun c hc =>
    have ⟨_, hbracket, hblank, _⟩ := ne_of_isName hname hc
    ⟨hbracket, hblank⟩
  have hopened : ('<' :: tag.toList).foldlM step ⟨parts, .text⟩ = some ⟨parts, .name tag.toList⟩ := by
    simp [step, foldlM_name hnames]
  rw [List.foldlM_append, hopened]
  refine (foldlM_write_attributes hplain rfl rfl).trans ?_
  simp [openingTag, Tag.map, Function.comp_def]

/-- The tag that closes an element is read as it is. -/
theorem foldlM_write_closing {tag : String} (hname : isName tag = true) (parts : Parts) :
    ('<' :: '/' :: tag.toList ++ ['>']).foldlM step ⟨parts, .text⟩ =
      some ⟨parts.addTag (closingTag tag), .text⟩ := by
  have hnames : ∀ c ∈ tag.toList, c ≠ '>' ∧ c ≠ ' ' := fun c hc =>
    have ⟨_, hbracket, hblank, _⟩ := ne_of_isName hname hc
    ⟨hbracket, hblank⟩
  simp [List.foldlM_append, step, foldlM_name hnames, closingTag]

mutual

/-- A piece of markup is read as its parts are written. -/
theorem foldlM_write {piece : Markup} (hplain : piece.isPlain = true) (parts : Parts) :
    piece.write.foldlM step ⟨parts.escaped, .text⟩ = some ⟨(addTo parts piece).escaped, .text⟩ := by
  match piece with
  | text content =>
      rw [write, addTo, Parts.escaped_addText]
      exact foldlM_text fun c hc => ((Text.isInert_escapeChars _).plain c hc).1
  | element tag attributes children =>
      -- The reader is back in a text after each of the three: the tag, the children and the other tag.
      obtain ⟨hopening, hchildren⟩ := (Bool.and_eq_true _ _).mp hplain
      obtain ⟨hname, hattributes⟩ := (Bool.and_eq_true _ _).mp hopening
      have hwritten : (element tag attributes children).write =
          ('<' :: tag.toList ++ (attributes.flatMap MarkupAttribute.write ++ ['>'])) ++
            (writeAll children ++ ('<' :: '/' :: tag.toList ++ ['>'])) := by
        simp [write]
      rw [hwritten, List.foldlM_append,
        foldlM_write_opening hname (List.all_eq_true.mp hattributes), Option.bind_eq_bind,
        Option.bind_some, List.foldlM_append, ← Parts.escaped_addTag,
        foldlM_writeAll hchildren, Option.bind_eq_bind, Option.bind_some, foldlM_write_closing hname,
        addTo, Parts.escaped_addTag]
      rfl

/-- Pieces of markup are read as their parts are written. -/
theorem foldlM_writeAll {pieces : List Markup} (hplain : allPlain pieces = true) (parts : Parts) :
    (writeAll pieces).foldlM step ⟨parts.escaped, .text⟩ =
      some ⟨(addAllTo parts pieces).escaped, .text⟩ := by
  match pieces with
  | [] => rfl
  | piece :: rest =>
      obtain ⟨hpiece, hrest⟩ := (Bool.and_eq_true _ _).mp hplain
      rw [writeAll, List.foldlM_append, foldlM_write hpiece, Option.bind_eq_bind, Option.bind_some,
        foldlM_writeAll hrest, addAllTo]

end

/-- What was written is read as the parts of the tree, escaped. -/
theorem read?_written {piece : Markup} (hplain : piece.isPlain = true) :
    read? piece.written.toList = some piece.parts.escaped := by
  have hread := foldlM_write hplain ⟨[], []⟩
  rw [written, String.toList_ofList, read?]
  simp only [show (⟨[], []⟩ : Parts).escaped = ⟨[], []⟩ from rfl] at hread
  rw [hread]
  rfl

/-! ### What stands in the parts -/

namespace Tag

/-- The tag with the values of an attribute left out. -/
def without (name : List Char) (tag : Tag) : Tag :=
  ⟨tag.name, tag.attributes.map fun item => (item.1, if item.1 = name then [] else item.2)⟩

/-- The values of an attribute in a tag. -/
def valuesOf (name : List Char) (tag : Tag) : List (List Char) :=
  (tag.attributes.filter fun item => item.1 == name).map (·.2)

@[simp] theorem valuesOf_closingTag (name : List Char) (tag : String) :
    (closingTag tag).valuesOf name = [] := rfl

theorem without_map {f : List Char → List Char} (hnil : f [] = []) (name : List Char) (tag : Tag) :
    (tag.map f).without name = (tag.without name).map f := by
  simp only [map, without, List.map_map, mk.injEq, true_and]
  refine List.map_congr_left fun item _ => ?_
  simp only [Function.comp_apply]
  split
  · rw [hnil]
  · rfl

theorem valuesOf_map (f : List Char → List Char) (name : List Char) (tag : Tag) :
    (tag.map f).valuesOf name = (tag.valuesOf name).map f := by
  simp [map, valuesOf, List.filter_map, Function.comp_def]

end Tag

namespace Parts

/-- The texts before tags: those that stand alone between a tag that opens and one that closes, or the
others. -/
def textsBetween (alone opened : Bool) : List (List Char × Tag) → List (List Char)
  | [] => []
  | (text, tag) :: rest =>
    let others := textsBetween alone (!tag.isClosing) rest
    if (opened && tag.isClosing) == alone then text :: others else others

/-- The texts that are all that an element holds. -/
def leaves (parts : Parts) : List (List Char) := textsBetween true false parts.tags

/-- The texts before the other tags. -/
def loose (parts : Parts) : List (List Char) := textsBetween false false parts.tags

/-- The tags, with the values of an attribute left out. -/
def tagsWithout (name : List Char) (parts : Parts) : List Tag :=
  parts.tags.map fun item => item.2.without name

/-- The values of an attribute. -/
def valuesOf (name : List Char) (parts : Parts) : List (List Char) :=
  parts.tags.flatMap fun item => item.2.valuesOf name

/-- Whether the last tag opens an element. -/
def isOpened (parts : Parts) : Bool := (parts.tags.getLast?.map fun item => !item.2.isClosing).getD false

section Adding

variable (parts : Parts) (tag : Tag) (name text : List Char)

theorem textsBetween_append (alone opened : Bool) (tags : List (List Char × Tag)) :
    textsBetween alone opened (tags ++ [(text, tag)]) = textsBetween alone opened tags ++
      if (((tags.getLast?.map fun item => !item.2.isClosing).getD opened && tag.isClosing) == alone)
        then [text] else [] := by
  induction tags generalizing opened with
  | nil => rfl
  | cons item rest ih =>
      have hlast : (((item :: rest).getLast?.map fun item => !item.2.isClosing).getD opened) =
          ((rest.getLast?.map fun item => !item.2.isClosing).getD (!item.2.isClosing)) := by
        cases rest <;> simp [List.getLast?_cons]
      rw [List.cons_append, textsBetween, ih, hlast, textsBetween]
      split <;> rfl

@[simp] theorem text_addTag : (parts.addTag tag).text = [] := rfl

@[simp] theorem text_addText : (parts.addText text).text = parts.text ++ text := rfl

@[simp] theorem isOpened_addTag : (parts.addTag tag).isOpened = !tag.isClosing := by
  simp [isOpened, addTag]

@[simp] theorem isOpened_addText : (parts.addText text).isOpened = parts.isOpened := rfl

@[simp] theorem leaves_addTag : (parts.addTag tag).leaves =
    parts.leaves ++ if parts.isOpened && tag.isClosing then [parts.text] else [] := by
  rw [leaves, addTag, textsBetween_append, beq_true]
  rfl

@[simp] theorem leaves_addText : (parts.addText text).leaves = parts.leaves := rfl

@[simp] theorem tagsWithout_addTag :
    (parts.addTag tag).tagsWithout name = parts.tagsWithout name ++ [tag.without name] := by
  simp [tagsWithout, addTag]

@[simp] theorem tagsWithout_addText : (parts.addText text).tagsWithout name = parts.tagsWithout name := rfl

@[simp] theorem valuesOf_addTag :
    (parts.addTag tag).valuesOf name = parts.valuesOf name ++ tag.valuesOf name := by
  simp [valuesOf, addTag]

@[simp] theorem valuesOf_addText : (parts.addText text).valuesOf name = parts.valuesOf name := rfl

end Adding

section Mapping

variable (f : List Char → List Char) (parts : Parts) (name : List Char)

theorem textsBetween_map (alone opened : Bool) (tags : List (List Char × Tag)) :
    textsBetween alone opened (tags.map fun item => (f item.1, item.2.map f)) =
      (textsBetween alone opened tags).map f := by
  induction tags generalizing opened with
  | nil => rfl
  | cons item rest ih =>
      rw [List.map_cons, textsBetween, textsBetween, ih, Tag.isClosing_map]
      cases (opened && item.2.isClosing) == alone <;> rfl

theorem strings_map : (parts.map f).strings = parts.strings.map f := by
  simp [strings, map, Tag.map, List.map_flatMap, List.flatMap_map, Function.comp_def]

theorem leaves_map : (parts.map f).leaves = parts.leaves.map f := textsBetween_map f true false parts.tags

theorem loose_map : (parts.map f).loose = parts.loose.map f := textsBetween_map f false false parts.tags

theorem tagsWithout_map (hnil : f [] = []) :
    (parts.map f).tagsWithout name = (parts.tagsWithout name).map (Tag.map f) := by
  simp [tagsWithout, map, Tag.without_map hnil, Function.comp_def]

theorem valuesOf_map : (parts.map f).valuesOf name = (parts.valuesOf name).map f := by
  simp [valuesOf, map, Tag.valuesOf_map, List.map_flatMap, List.flatMap_map]

end Mapping

/-- There is nothing between the elements but line breaks. -/
structure IsLaid (parts : Parts) : Prop where
  loose : ∀ text ∈ parts.loose, text = [] ∨ text = ['\n']
  text : parts.text = [] ∨ parts.text = ['\n']

/-- Where there is nothing, there is nothing out of place. -/
theorem isLaid_nil : Parts.IsLaid ⟨[], []⟩ := ⟨fun _ hmem => (List.not_mem_nil hmem).elim, .inl rfl⟩

/-- Another tag does no harm if the text before it is all of an element or has done no harm. -/
theorem isLaid_addTag {parts : Parts} {tag : Tag}
    (hloose : ∀ text ∈ parts.loose, text = [] ∨ text = ['\n'])
    (htext : (parts.isOpened && tag.isClosing) = true ∨ parts.text = [] ∨ parts.text = ['\n']) :
    (parts.addTag tag).IsLaid := by
  refine ⟨fun text hmem => ?_, .inl rfl⟩
  rw [Parts.loose, addTag, textsBetween_append] at hmem
  rcases List.mem_append.mp hmem with hmem | hmem
  · exact hloose text hmem
  · split at hmem
    · next halone =>
        rw [List.mem_singleton.mp hmem]
        refine htext.resolve_left ?_
        rw [show (parts.isOpened && tag.isClosing) = false from beq_iff_eq.mp halone]
        exact Bool.false_ne_true
    · cases hmem

end Parts

end Markup

end TemplateWorkbench
