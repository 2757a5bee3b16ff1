import TemplateWorkbench.Number.Integer
import TemplateWorkbench.View.Outcome

/-!
# The style sheet

The page brings its own style sheet, of which every rule is confined to the page's own element.
-/

namespace TemplateWorkbench.Page

/-- The height of editors, divider and output together. -/
def totalHeight : Int := 800

/-- The name of the page's own element. -/
def elementName (uid : String) : String := s!"tpg-{uid}"

/-- The fonts of the page. -/
def fonts : String := "'Monaco', 'Menlo', 'Ubuntu Mono', 'Consolas', 'source-code-pro', monospace"

/-- The background of the editors. -/
def editorBackground : String := "#002240"

/-- The background of the context editor. -/
def contextBackground : String := "rgb(10, 24, 44)"

/-- The color of dividers. -/
def dividerColor : String := "#000000"

/-- The color of texts. -/
def textColor : String := "#FFFFFF"

/-- A declaration of a style rule. -/
abbrev Declaration := String × String

/-- A style rule: the parts of the page that it is for, and its declarations by lines.  A rule that is
not spread is written on one line. -/
structure Rule where
  selectors : List String
  spread : Bool
  lines : List (List Declaration)

namespace Rule

/-- A rule on one line. -/
def brief (selector : String) (declarations : List Declaration) : Rule :=
  ⟨[selector], false, [declarations]⟩

/-- A rule on several lines. -/
def long (selector : String) (lines : List (List Declaration)) : Rule := ⟨[selector], true, lines⟩

/-- The declarations of a line. -/
def lineText (declarations : List Declaration) : String :=
  " ".intercalate (declarations.map fun (property, value) => s!"{property}: {value};")

/-- A selector, confined to a scope. -/
def selectorText (scope selector : String) : String :=
  if selector.isEmpty then scope else s!"{scope} {selector}"

/-- The rule as it is written. -/
def text (scope : String) (rule : Rule) : String :=
  let selectors := ", ".intercalate (rule.selectors.map (selectorText scope))
  let lines := rule.lines.map lineText
  let body :=
    if rule.spread then "\n" ++ String.join (lines.map fun line => s!"  {line}\n")
    else " " ++ " ".intercalate lines ++ " "
  selectors ++ " \x7b" ++ body ++ "\x7d"

end Rule

/-- A length in pixels. -/
def pixels (length : Int) : String := Number.integerText length ++ "px"

/-- The background of an output by its kind. -/
def outputRule (kind : OutcomeKind) : Rule :=
  .brief s!".tpg-output-pane.tpg-{kind.name}" [("background", kind.background)]

/-- The rules of the page and of its header. -/
def frameRules (fontSize : Int) : List Rule := [
  .brief "*" [("box-sizing", "border-box"), ("margin", "0"), ("padding", "0")],
  .long "" [
    [("font-family", fonts)],
    [("font-size", pixels fontSize), ("color", textColor)],
    [("display", "flex"), ("flex-direction", "column")],
    [("height", pixels totalHeight), ("background", editorBackground)]],
  .long ".tpg-header" [
    [("display", "flex"), ("justify-content", "space-between"), ("align-items", "center")],
    [("padding", "6px 12px"), ("background", "black")]],
  .brief ".tpg-title"
    [("font-weight", "700"), ("letter-spacing", "1px"), ("text-transform", "uppercase")],
  .brief ".tpg-controls" [("display", "flex"), ("gap", "6px"), ("align-items", "center")],
  .long ".tpg-btn" [
    [("border", s!"1px solid {textColor}"), ("background", "transparent"), ("color", textColor)],
    [("padding", "2px 8px"), ("font-family", "inherit"), ("font-size", "11px"),
      ("cursor", "pointer")]],
  .brief ".tpg-btn.tpg-active" [("background", textColor), ("color", "black")],
  .brief "select.tpg-btn option" [("color", "black")]]

/-- The rules of the editors and the dividers. -/
def editorRules (fontSize tabSize : Int) : List Rule := [
  .brief ".tpg-editors" [("display", "flex"), ("min-height", "0")],
  .brief ".tpg-pane" [("position", "relative"), ("min-width", "0")],
  .long ".tpg-editor" [
    [("width", "100%"), ("height", "100%"), ("resize", "none"), ("border", "none"),
      ("outline", "none")],
    [("padding", "16px"), ("font-family", "inherit"), ("font-size", pixels fontSize)],
    [("color", textColor), ("background", editorBackground)],
    [("tab-size", Number.integerText tabSize), ("white-space", "pre")]],
  .brief ".tpg-context-editor" [("background", contextBackground)],
  .brief ".tpg-divider" [("background", dividerColor), ("flex-shrink", "0")],
  .brief ".tpg-divider-x" [("cursor", "ew-resize")],
  .brief ".tpg-divider-y" [("height", "3px"), ("cursor", "ns-resize")]]

/-- The rules of the output. -/
def outputRules : List Rule :=
  [.brief ".tpg-output-pane" [("overflow", "auto"), ("padding", "12px 16px"), ("flex-shrink", "0")]]
  ++ OutcomeKind.all.map outputRule ++ [
  .brief ".tpg-output" [("white-space", "pre-wrap"), ("word-wrap", "normal")],
  .brief ".tpg-pre" [("font-family", "inherit"), ("white-space", "pre-wrap")],
  .brief ".tpg-table" [("border-collapse", "collapse")],
  ⟨[".tpg-table th", ".tpg-table td"], false,
    [[("padding", "1px 12px 1px 0"), ("text-align", "left")]]⟩,
  .brief ".tpg-table th"
    [("opacity", "0.6"), ("font-weight", "400"), ("text-transform", "uppercase"),
      ("font-size", "10px")],
  .brief ".tpg-span" [("opacity", "0.6")],
  .brief ".tpg-block" [("margin-bottom", "12px")],
  .brief ".tpg-block-title" [("font-weight", "700"), ("margin-bottom", "4px")],
  .brief ".tpg-stale"
    [("padding", "4px 16px"), ("background", "black"), ("font-size", "11px"), ("opacity", "0.8")],
  .brief ".tpg-outputs.tpg-is-stale .tpg-output-pane" [("opacity", "0.5")]]

/-- The style sheet of a page. -/
def styleSheet (uid : String) (fontSize tabSize : Int) : String :=
  let rules := frameRules fontSize ++ editorRules fontSize tabSize ++ outputRules
  "\n" ++ String.join (rules.map fun rule => rule.text s!"#{elementName uid}" ++ "\n")

end TemplateWorkbench.Page
