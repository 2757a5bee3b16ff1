import TemplateWorkbench.Json.Writer

/-!
# Syntax trees for display

A tree of nodes, each with a kind, the line it starts on and its fields in order.  A field is a
node, a list of fields, or plain data.  The children of a node are the nodes that are fields or
items of fields, and its walk is the node followed by the walks of its children; nodes deeper inside
lists are no children, and a tree that holds one has no outline.
-/

namespace TemplateWorkbench

mutual

/-- A node of a syntax tree. -/
inductive Tree where
  | node (kind : String) (line : Int) (fields : List (String × Tree.Field))

/-- A field of a node. -/
inductive Tree.Field where
  | tree (child : Tree)
  | list (items : List Tree.Field)
  | data (value : Json)

end

instance : Inhabited Tree := ⟨.node "" 0 []⟩

namespace Tree

/-- The kind of a node. -/
def kind : Tree → String
  | node kind _ _ => kind

/-- The line of a node. -/
def line : Tree → Int
  | node _ line _ => line

/-- The fields of a node. -/
def fields : Tree → List (String × Field)
  | node _ _ fields => fields

/-- The node that a field is. -/
def Field.tree? : Field → Option Tree
  | .tree child => some child
  | _ => none

/-- The nodes that a field holds directly. -/
def Field.nodes : Field → List Tree
  | .tree child => [child]
  | .list items => items.filterMap Field.tree?
  | .data _ => []

/-- The direct child nodes in the order of the fields. -/
def children (tree : Tree) : List Tree := tree.fields.flatMap fun field => field.2.nodes

mutual

/-- A node and all its descendants, depth first. -/
def walk : Tree → List Tree
  | .node kind line fields => .node kind line fields :: walkFields fields

/-- The walks of the nodes in a list of fields. -/
def walkFields : List (String × Field) → List Tree
  | [] => []
  | (_, .tree child) :: rest => child.walk ++ walkFields rest
  | (_, .list items) :: rest => walkItems items ++ walkFields rest
  | (_, .data _) :: rest => walkFields rest

/-- The walks of the nodes among the items of a list. -/
def walkItems : List Field → List Tree
  | [] => []
  | .tree child :: rest => child.walk ++ walkItems rest
  | _ :: rest => walkItems rest

end

mutual

/-- The tree as plain data. -/
def toJson : Tree → Json
  | .node kind line fields =>
    .object [("kind", .string kind), ("lineno", .int line), ("fields", .object (fieldsToJson fields))]

/-- Named fields as plain data; of two fields with one name the later value counts. -/
def fieldsToJson : List (String × Field) → List (String × Json)
  | [] => []
  | (name, field) :: rest => (name, field.toJson) :: fieldsToJson rest

/-- A field as plain data. -/
def Field.toJson : Field → Json
  | .tree child => child.toJson
  | .list items => .list (itemsToJson items)
  | .data value => value

/-- The items of a list as plain data. -/
def itemsToJson : List Field → List Json
  | [] => []
  | item :: rest => item.toJson :: itemsToJson rest

end

/-- Why a tree has no outline. -/
inductive OutlineFault where
  /-- A node stands where only plain data can be written. -/
  | nestedNode
  | unwritable (fault : Json.WriteFault)
deriving DecidableEq, Repr

/-- The message for a tree without an outline. -/
def OutlineFault.message : OutlineFault → String
  | .nestedNode => "Object of type ASTNode is not JSON serializable"
  | .unwritable fault => fault.message

mutual

/-- The text of a field that holds no node, on one line. -/
def Field.text : Field → Except OutlineFault (List Char)
  | .tree _ => .error .nestedNode
  | .list items =>
    match textItems items with
    | .ok written => .ok (Json.Style.line.enclose 0 '[' ']' written)
    | .error fault => .error fault
  | .data value =>
    match Json.writeChars .line 0 value with
    | .ok written => .ok written
    | .error fault => .error (.unwritable fault)

/-- The texts of the items of a list. -/
def textItems : List Field → Except OutlineFault (List (List Char))
  | [] => .ok []
  | item :: rest => do pure ((← item.text) :: (← textItems rest))

end

/-- A line of an outline at a depth, two spaces for each level. -/
def outlineLine (depth : Nat) (text : String) : String :=
  String.ofList (List.replicate (2 * depth) ' ') ++ text

/-- A line that shows a field or an item without nodes. -/
def dataLine (depth : Nat) (label : String) (field : Field) : Except OutlineFault String := do
  pure (outlineLine depth (label ++ String.ofList (← field.text)))

mutual

/-- The outline of a node at a depth: a header with kind and line, then the fields.  Nodes are
headed by the name of their field and stand one level deeper than it. -/
def outlineLines (depth : Nat) : Tree → Except OutlineFault (List String)
  | .node kind line fields => do
    pure (outlineLine depth s!"{kind} @{line}" :: (← outlineFields depth fields))

/-- The lines of the fields of a node at a depth. -/
def outlineFields (depth : Nat) : List (String × Field) → Except OutlineFault (List String)
  | [] => .ok []
  | (name, .tree child) :: rest => do
    let lines ← child.outlineLines (depth + 2)
    pure (outlineLine (depth + 1) s!"{name}:" :: lines ++ (← outlineFields depth rest))
  | (name, .list items) :: rest => do
    let lines ←
      if items.any (·.tree?.isSome) then do
        pure (outlineLine (depth + 1) s!"{name}:" :: (← outlineItems depth items))
      else do
        pure [← dataLine (depth + 1) s!"{name}: " (.list items)]
    pure (lines ++ (← outlineFields depth rest))
  | (name, .data value) :: rest => do
    let line ← dataLine (depth + 1) s!"{name}: " (.data value)
    pure (line :: (← outlineFields depth rest))

/-- The lines of the items of a list that holds a node. -/
def outlineItems (depth : Nat) : List Field → Except OutlineFault (List String)
  | [] => .ok []
  | .tree child :: rest => do
    pure ((← child.outlineLines (depth + 2)) ++ (← outlineItems depth rest))
  | item :: rest => do
    let line ← dataLine (depth + 2) "" item
    pure (line :: (← outlineItems depth rest))

end

/-- The tree as an indented outline. -/
def outline (tree : Tree) : Except OutlineFault String := do
  pure ("\n".intercalate (← tree.outlineLines 0))

end Tree

end TemplateWorkbench
