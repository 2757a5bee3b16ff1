import TemplateWorkbench.View.Outcome
import TemplateWorkbench.Markup.Basic

/-!
# Projections

Every payload has a text and a markup form; an outcome that is no success shows its message.  Values
are written on one line, and whatever comes from outside is a text or the value of an attribute.
-/

namespace TemplateWorkbench

/-- The color of a token by its label. -/
def tokenColor : String → String
  | "data" => "#FFFFFF"
  | "name" => "#FFDD00"
  | "string" => "#3AD900"
  | "integer" | "float" => "#FF628C"
  | "variable_begin" | "variable_end" | "block_begin" | "block_end" => "#FF9D00"
  | _ => "#9EFFFF"

/-- A text with spaces after it up to a width. -/
def padRight (width : Nat) (text : String) : String :=
  text ++ String.ofList (List.replicate (width - text.length) ' ')

/-- A number with spaces before it up to a width. -/
def padNumber (width number : Nat) : String :=
  let digits := Number.decimalText number
  String.ofList (List.replicate (width - digits.length) ' ') ++ digits

/-- The value of an entry after a space, if it has one. -/
def Entry.valueSuffix (entry : Entry) : Except ProjectionFault String :=
  match entry.value with
  | some value => (valueText value).map (" " ++ ·)
  | none => .ok ""

/-- The value of an entry for a table cell. -/
def Entry.valueCell (entry : Entry) : Except ProjectionFault String :=
  match entry.value with
  | some value => valueText value
  | none => .ok ""

/-! ### Text -/

/-- A token on a line of its own. -/
def PlacedEntry.line (placed : PlacedEntry) : Except ProjectionFault String := do
  pure s!"{padRight 16 placed.span.text} {placed.entry.label}{← placed.entry.valueSuffix}"

/-- A numbered instruction on a line of its own. -/
def instructionLine (number : Nat) (entry : Entry) : Except ProjectionFault String := do
  pure s!"  {padNumber 4 number} {entry.label}{← entry.valueSuffix}"

/-- Instructions on lines of their own, counted from a number on. -/
def instructionLines (number : Nat) : List Entry → Except ProjectionFault (List String)
  | [] => .ok []
  | entry :: rest => do
    let line ← instructionLine number entry
    pure (line :: (← instructionLines (number + 1) rest))

/-- The lines of a block. -/
def blockLines (block : String × List Entry) : Except ProjectionFault (List String) := do
  pure (s!"{block.1}:" :: (← instructionLines 0 block.2))

/-- The text of a payload. -/
def Payload.text : Payload → Except ProjectionFault String
  | .rendered text => .ok text
  | .tokens entries => do pure ("\n".intercalate (← entries.mapM PlacedEntry.line))
  | .tree root => outlineText root
  | .programs blocks => do pure ("\n".intercalate (← blocks.mapM blockLines).flatten)

/-! ### HTML -/

/-- A text that is shown as it is set. -/
def preformatted (text : String) : Markup := .element "pre" [.classes "tpg-pre"] [.text text]

/-- A cell of a table with a text in it. -/
def cell (attributes : List MarkupAttribute) (content : String) : Markup :=
  .element "td" attributes [.text content]

/-- A token as a table row. -/
def PlacedEntry.row (placed : PlacedEntry) : Except ProjectionFault Markup := do
  let value ← placed.entry.valueCell
  let label := placed.entry.label
  pure
    (.element "tr" []
      [cell [.classes "tpg-span"] placed.span.text,
        cell [.classes "tpg-token", .of "style" s!"color:{tokenColor label};"] label,
        cell [.classes "tpg-payload"] value])

/-- A numbered instruction as a table row. -/
def instructionRow (number : Nat) (entry : Entry) : Except ProjectionFault Markup := do
  let value ← entry.valueCell
  pure
    (.element "tr" []
      [cell [] (padNumber 4 number), cell [.classes "tpg-op"] entry.label,
        cell [.classes "tpg-payload"] value])

/-- Instructions as table rows, counted from a number on. -/
def instructionRows (number : Nat) : List Entry → Except ProjectionFault (List Markup)
  | [] => .ok []
  | entry :: rest => do
    let row ← instructionRow number entry
    pure (row :: (← instructionRows (number + 1) rest))

/-- A table with a header and rows. -/
def table (header : List String) (rows : List Markup) : Markup :=
  let titles := header.map fun title => Markup.element "th" [] [.text title]
  .element "table" [.classes "tpg-table"] (.element "tr" [] titles :: rows)

/-- A block with its table. -/
def blockMarkup (block : String × List Entry) : Except ProjectionFault Markup := do
  let rows ← instructionRows 0 block.2
  pure
    (.element "div" [.classes "tpg-block", .of "data-block" block.1]
      [.element "div" [.classes "tpg-block-title"] [.text block.1],
        table ["#", "Op", "Arg"] rows])

/-- The markup of a payload. -/
def Payload.markup : Payload → Except ProjectionFault (List Markup)
  | .rendered text => .ok [preformatted text]
  | .tokens entries => do
    pure [table ["Span", "Token", "Value"] (← entries.mapM PlacedEntry.row)]
  | .tree root => (outlineText root).map fun text => [preformatted text]
  | .programs blocks => do pure ((← blocks.mapM blockMarkup).intersperse .lineBreak)

/-! ### Outcomes -/

/-- The text of an outcome. -/
def Outcome.text : Outcome Payload → Except ProjectionFault String
  | .success payload => payload.text
  | outcome => .ok outcome.message

/-- The markup of an outcome in a view. -/
def Outcome.markup (view : ViewMode) (outcome : Outcome Payload) :
    Except ProjectionFault Markup := do
  let body ←
    match outcome with
    | .success payload => payload.markup
    | other => .ok [.text other.message]
  let kind := outcome.kind
  pure
    (.element "div"
      [.classes s!"tpg-output {kind.styleClass}", .of "data-view" view.name,
        .of "data-result" kind.name]
      body)

/-- The HTML form of an outcome in a view. -/
def Outcome.html (view : ViewMode) (outcome : Outcome Payload) : Except ProjectionFault String :=
  (outcome.markup view).map Markup.written

end TemplateWorkbench
