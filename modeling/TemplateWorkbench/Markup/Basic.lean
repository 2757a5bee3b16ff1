import TemplateWorkbench.Text.Entity

/-!
# Markup

Markup is a tree of elements and texts, and only its writer turns it into characters.  Texts and the
values of attributes are escaped when they are written, so none of them can open or close a tag.  The
contents of style sheets and scripts are no markup and are written as they are.
-/

namespace TemplateWorkbench

/-- An attribute; one without a value is a mere mark. -/
structure MarkupAttribute where
  name : String
  value : Option String
deriving DecidableEq, Repr

/-- A piece of markup. -/
inductive Markup where
  | text (content : String)
  | verbatim (content : String)
  | element (tag : String) (attributes : List MarkupAttribute) (children : List Markup)
deriving Repr

namespace MarkupAttribute

/-- An attribute with a value. -/
def of (name value : String) : MarkupAttribute := ⟨name, some value⟩

/-- The attribute that names style classes. -/
def classes (names : String) : MarkupAttribute := of "class" names

/-- The attribute that identifies an element. -/
def id (name : String) : MarkupAttribute := of "id" name

/-- The characters of an attribute, after a space. -/
def write (item : MarkupAttribute) : List Char :=
  ' ' :: item.name.toList ++
    match item.value with
    | some value => '=' :: '"' :: Text.pageReferences.escapeChars value.toList ++ ['"']
    | none => []

end MarkupAttribute

namespace Markup

mutual

/-- The characters of a piece of markup. -/
def write : Markup → List Char
  | text content => Text.pageReferences.escapeChars content.toList
  | verbatim content => content.toList
  | element tag attributes children =>
    '<' :: tag.toList ++ attributes.flatMap MarkupAttribute.write ++
      '>' :: (writeAll children ++ '<' :: '/' :: tag.toList ++ ['>'])

/-- The characters of pieces of markup, one after another. -/
def writeAll : List Markup → List Char
  | [] => []
  | piece :: rest => piece.write ++ writeAll rest

end

/-- A piece of markup as it is written. -/
def written (piece : Markup) : String := String.ofList piece.write

/-- A line break between elements. -/
def lineBreak : Markup := .text "\n"

end Markup

end TemplateWorkbench
