import TemplateWorkbench.Layout.Drag

/-!
# Panes

The editors stand side by side above the output: the template editor takes the room that the context
editor leaves, and the editors take the height that the output leaves.  A divider each moves the
edge of the context editor and of the output.
-/

namespace TemplateWorkbench

/-- The thickness of a divider. -/
def dividerThickness : Int := 3

/-- The key under which the width of the context editor is stored. -/
def contextWidthKey : String := "contextWidth"

/-- The key under which the height of the output is stored. -/
def outputHeightKey : String := "outputHeight"

/-- The width of the context editor when nothing else is known. -/
def defaultContextWidth : Int := 350

/-- The height of the output when nothing else is known. -/
def defaultOutputHeight : Int := 300

/-- An item of the row of editors. -/
structure FlexItem where
  id : String
  grow : Nat
  basis : Int
  resizable : Bool
deriving DecidableEq, Repr

/-- The length of a flex item before it grows, as it is written in a style. -/
def FlexItem.basisText (item : FlexItem) : String := Number.integerText item.basis ++ "px"

/-- The row of editors for a width of the context editor. -/
def horizontalLayout (contextWidth : Int) : List FlexItem :=
  [⟨"template", 1, 0, false⟩, ⟨"divider", 0, dividerThickness, true⟩,
    ⟨"context", 0, max contextWidth 0, false⟩]

/-- A row of the page. -/
structure PageRow where
  id : String
  height : Int
  resizable : Bool
deriving DecidableEq, Repr

/-- The total height when nothing else is known. -/
def defaultTotalHeight : Int := 800

/-- The rows of the page for a height of the output. -/
def verticalLayout (outputHeight totalHeight : Int) : List PageRow :=
  let output := max outputHeight 0
  [⟨"editors", max (totalHeight - output - dividerThickness) 0, false⟩,
    ⟨"divider", dividerThickness, true⟩, ⟨"output", output, false⟩]

/-- The two panes that can be resized. -/
inductive Pane where
  | context | output
deriving DecidableEq, Repr

/-- The dividers of a page, and the store that both write to. -/
structure PaneLayout where
  store : Option SettingsStore
  context : Divider
  output : Divider
deriving Repr

namespace PaneLayout

/-- The dividers with the sizes that are stored, or with the given ones. -/
def create (store : Option SettingsStore) (contextWidth outputHeight minSize : Int) :
    Except DividerFault PaneLayout := do
  let context ← Divider.create contextWidthKey .x (.whole contextWidth) store minSize
  let output ← Divider.create outputHeightKey .y (.whole outputHeight) store minSize
  pure ⟨store, context, output⟩

/-- The divider of a pane. -/
def divider (layout : PaneLayout) : Pane → Divider
  | .context => layout.context
  | .output => layout.output

/-- The layout with the divider of a pane changed. -/
def withDivider (layout : PaneLayout) (pane : Pane) (divider : Divider) : PaneLayout :=
  match pane with
  | .context => { layout with context := divider }
  | .output => { layout with output := divider }

/-- Whether a drag goes on. -/
def isDragging (layout : PaneLayout) : Bool :=
  layout.context.isDragging || layout.output.isDragging

/-- Ends every drag, as when the pointer leaves the page. -/
def releaseAll (layout : PaneLayout) : PaneLayout :=
  { layout with context := layout.context.pointerUp, output := layout.output.pointerUp }

/-- The pointer moves over a pane's divider: the layout after it, and the new size, if a drag of the
divider goes on. -/
def pointerMove (layout : PaneLayout) (pane : Pane) (coordinate : Measure) :
    Except DividerFault (PaneLayout × Option Int) := do
  let moved ← (layout.divider pane).pointerMove layout.store coordinate
  pure ({ layout.withDivider pane moved.divider with store := moved.store }, moved.size)

end PaneLayout

end TemplateWorkbench
