/-!
# Escaping for markup

Five characters cannot stand for themselves in markup text and in attribute values: the ampersand,
the two angle brackets and the two quotes.  The first three have the same references everywhere;
the spelling of the quotes is a choice, which `References` records.
-/

namespace TemplateWorkbench.Text

/-- The references that stand for the two quotes. -/
structure References where
  doubleQuote : List Char
  singleQuote : List Char

/-- The references used in the page and in its output panes. -/
def pageReferences : References := ⟨"&quot;".toList, "&#x27;".toList⟩

/-- The references used where a template escapes what it prints. -/
def templateReferences : References := ⟨"&#34;".toList, "&#39;".toList⟩

/-- One character escaped. -/
def References.escapeChar (references : References) (c : Char) : List Char :=
  match c with
  | '&' => "&amp;".toList
  | '<' => "&lt;".toList
  | '>' => "&gt;".toList
  | '"' => references.doubleQuote
  | '\'' => references.singleQuote
  | c => [c]

/-- The text escaped, as a list of characters. -/
def References.escapeChars (references : References) (text : List Char) : List Char :=
  text.flatMap references.escapeChar

/-- The text escaped. -/
def References.escape (references : References) (text : String) : String :=
  String.ofList (references.escapeChars text.toList)

/-- The text escaped as a template prints it. -/
def escapeMarkup (text : String) : String := templateReferences.escape text

end TemplateWorkbench.Text
