import TemplateWorkbench.Text.Quoted

/-!
# Files

Files are reached by paths, which lead into a tree of directories.

## Paths

A path is a root and a list of parts.  Repeated separators, parts that are a single point and a
separator at the end mean nothing and are dropped; two separators at the start, but not three, make a
root of their own; parts that go up stay.
-/

namespace TemplateWorkbench

/-- A path in normal form: its root and its parts. -/
structure FilePath where
  root : String
  parts : List String
deriving DecidableEq, Repr

namespace FilePath

/-- The pieces of a text between separators. -/
def pieces : List Char → List (List Char)
  | [] => [[]]
  | c :: rest =>
    if c = '/' then [] :: pieces rest
    else
      match pieces rest with
      | [] => [[c]]
      | piece :: others => (c :: piece) :: others

/-- The root at the front of a text. -/
def rootOf : List Char → String
  | '/' :: '/' :: '/' :: _ => "/"
  | '/' :: '/' :: _ => "//"
  | '/' :: _ => "/"
  | _ => ""

/-- The path of a text. -/
def ofText (text : String) : FilePath where
  root := rootOf text.toList
  parts :=
    ((pieces text.toList).filter fun piece => !piece.isEmpty && piece != ['.']).map String.ofList

/-- The text of a path; a path without parts and root is a point. -/
def text (path : FilePath) : String :=
  let body := "/".intercalate path.parts
  if path.root.isEmpty && path.parts.isEmpty then "." else path.root ++ body

/-- The path with every part that goes up taken away together with the part before it. -/
def collapsed (path : FilePath) : FilePath :=
  { path with parts := path.parts.foldl (fun kept part =>
      if part == ".." && kept.getLast?.any (· != "..") then kept.dropLast else kept ++ [part]) [] }

/-- The path with its last part changed. -/
def mapName (f : String → String) (path : FilePath) : FilePath :=
  match path.parts.reverse with
  | [] => path
  | name :: before => { path with parts := (f name :: before).reverse }

/-- The path below another one. -/
def below (base path : FilePath) : FilePath :=
  if path.root.isEmpty then { base with parts := base.parts ++ path.parts } else path

/-- The home of another user is not known. -/
inductive HomeFault where
  | unknown
deriving DecidableEq, Repr

/-- What is said of an unknown home. -/
def HomeFault.message : HomeFault → String
  | unknown => "Could not determine home directory."

/-- The path with a leading `~` replaced by the home directory; other users have no home. -/
def expandHome (home path : FilePath) : Except HomeFault FilePath :=
  if !path.root.isEmpty then .ok path
  else
    match path.parts with
    | "~" :: rest => .ok { home with parts := home.parts ++ rest }
    | first :: _ => if first.toList.head? = some '~' then .error .unknown else .ok path
    | [] => .ok path

end FilePath

end TemplateWorkbench

/-!
## File trees

A tree of files and directories below one directory.  Paths into it are lists of names; every
operation answers like an operating system: what is missing, what is a directory, and what stands in
the way because it is a file are told apart.

A path leads to a place.  It is walked name by name: what is passed has to be a directory, and the name
of two points leads back up.  So two paths may lead to one place, and one that passes what is missing
leads nowhere, even if it goes back up again.

A file is replaced in steps: the directories above it are made, a temporary file beside it is opened
and written, and the temporary takes the place of the file.  Each step is an operation of its own, so
that a state between two steps is a state of the tree.
-/

namespace TemplateWorkbench

/-- What stands at a path. -/
inductive FileNode where
  | file (octets : List UInt8)
  | directory
deriving DecidableEq, Repr

/-- A path into a file tree. -/
abbrev TreePath := List String

/-- The nodes of a file tree by their places.  The directory that it is below is not listed. -/
structure FileTree where
  nodes : List (TreePath × FileNode)
deriving DecidableEq, Repr, Inhabited

/-- Why the operating system refuses. -/
inductive OsReason where
  | missing
  | alreadyThere
  | notDirectory
  | isDirectory
  | nameTooLong
deriving DecidableEq, Repr

/-- The number of a reason. -/
def OsReason.number : OsReason → Nat
  | missing => 2
  | alreadyThere => 17
  | notDirectory => 20
  | isDirectory => 21
  | nameTooLong => 36

/-- The words for a reason. -/
def OsReason.text : OsReason → String
  | missing => "No such file or directory"
  | notDirectory => "Not a directory"
  | alreadyThere => "File exists"
  | isDirectory => "Is a directory"
  | nameTooLong => "File name too long"

/-- A refusal of the operating system, and the path that it is about. -/
structure OsFault where
  reason : OsReason
  path : TreePath
deriving DecidableEq, Repr

/-- How a file tree calls the directory that it is below. -/
def FileTree.rootText : String := "<DIR>"

/-- How a path into a file tree is written. -/
def TreePath.text (path : TreePath) : String := "/".intercalate (FileTree.rootText :: path)

/-- What is said of a refusal. -/
def OsFault.message (fault : OsFault) : String :=
  s!"[Errno {fault.reason.number}] {fault.reason.text}: " ++
    Text.quote (TreePath.text fault.path)

namespace FileTree

/-- The name that leads back up. -/
def upName : String := ".."

/-- The node at a place; what is above the tree is a directory. -/
def node? (tree : FileTree) (place : TreePath) : Option FileNode :=
  if place.all (· == upName) then some .directory else tree.nodes.lookup place

/-- The tree with a node put at a path. -/
def put (tree : FileTree) (path : TreePath) (node : FileNode) : FileTree :=
  ⟨go tree.nodes⟩
where
  /-- Replaces the node in its place, or adds it at the end. -/
  go : List (TreePath × FileNode) → List (TreePath × FileNode)
    | [] => [(path, node)]
    | (other, old) :: rest =>
      if other == path then (other, node) :: rest else (other, old) :: go rest

/-- The tree without the node at a path. -/
def remove (tree : FileTree) (path : TreePath) : FileTree :=
  ⟨tree.nodes.filter fun node => node.1 != path⟩

/-! ### Places -/

/-- How many octets a name may have. -/
def longestName : Nat := 255

/-- How many octets the names of a path may have together, with what stands before and between them. -/
def longestPath : Nat := 4079

/-- The place above a place. -/
def up (place : TreePath) : TreePath :=
  if place.all (· == upName) then place ++ [upName] else place.dropLast

/-- The place that names lead to from a place. -/
def walk (tree : FileTree) (place : TreePath) : TreePath → Except OsReason TreePath
  | [] => .ok place
  | name :: rest =>
    match tree.node? place with
    | none => .error .missing
    | some (.file _) => .error .notDirectory
    | some .directory =>
      if longestName < name.utf8ByteSize then .error .nameTooLong
      else tree.walk (if name == upName then up place else place ++ [name]) rest

/-- The place that a path leads to; nothing has to be there. -/
def place? (tree : FileTree) (path : TreePath) : Except OsReason TreePath :=
  if longestPath < ("/".intercalate path).utf8ByteSize then .error .nameTooLong
  else tree.walk [] path

/-- Whether a path leads to a directory. -/
def isDirectory (tree : FileTree) (path : TreePath) : Bool :=
  match tree.place? path with
  | .ok place => tree.node? place == some .directory
  | .error _ => false

/-! ### Operations -/

/-- The octets of the file at a path. -/
def read (tree : FileTree) (path : TreePath) : Except OsFault (List UInt8) :=
  match tree.place? path with
  | .error reason => .error ⟨reason, path⟩
  | .ok place =>
    match tree.node? place with
    | some (.file octets) => .ok octets
    | some .directory => .error ⟨.isDirectory, path⟩
    | none => .error ⟨.missing, path⟩

/-- Writes a file at a path, in place of what the file held before. -/
def write (tree : FileTree) (path : TreePath) (octets : List UInt8) : Except OsFault FileTree :=
  match tree.place? path with
  | .error reason => .error ⟨reason, path⟩
  | .ok place =>
    match tree.node? place with
    | some .directory => .error ⟨.isDirectory, path⟩
    | _ => .ok (tree.put place (.file octets))

/-- Moves the file at one path to another, in place of a file there. -/
def replace (tree : FileTree) (source target : TreePath) : Except OsFault FileTree :=
  match tree.place? source, tree.place? target with
  | .error reason, _ | _, .error reason => .error ⟨reason, source⟩
  | .ok start, .ok goal =>
    match tree.node? start, tree.node? goal with
    | some (.file _), some .directory => .error ⟨.isDirectory, source⟩
    | some node, _ => .ok ((tree.remove start).put goal node)
    | none, _ => .error ⟨.missing, source⟩

/-- Makes a directory at a path. -/
def makeDirectory (tree : FileTree) (path : TreePath) : Except OsReason FileTree :=
  match tree.place? path with
  | .error reason => .error reason
  | .ok place =>
    if (tree.node? place).isSome then .error .alreadyThere else .ok (tree.put place .directory)

/-- Makes a directory, if it is not there, and before it every directory that is missing above it.
The path is given from its last name to its first. -/
def ensureDirectory (tree : FileTree) : (names : List String) → FileTree × Option OsFault
  | [] => (tree, none)
  | name :: before =>
    let path := (name :: before).reverse
    match tree.makeDirectory path with
    | .ok next => (next, none)
    | .error .missing =>
      match tree.ensureDirectory before with
      | (next, some fault) => (next, some fault)
      | (next, none) =>
        match next.makeDirectory path with
        | .ok last => (last, none)
        | .error reason => (next, if next.isDirectory path then none else some ⟨reason, path⟩)
    | .error reason => (tree, if tree.isDirectory path then none else some ⟨reason, path⟩)

/-- Makes every missing directory above a path. -/
def makeParents (tree : FileTree) (path : TreePath) : FileTree × Option OsFault :=
  tree.ensureDirectory path.dropLast.reverse

/-- The tree with a node at the place of a path, and directories above it, if that can be. -/
def plant (tree : FileTree) (path : TreePath) (node : FileNode) : FileTree :=
  let tree := (tree.makeParents path).1
  match tree.place? path with
  | .ok place => tree.put place node
  | .error _ => tree

/-- The files of a tree with their contents; what is beside the tree is none of it. -/
def files (tree : FileTree) : List (TreePath × List UInt8) :=
  tree.nodes.filterMap fun (path, node) =>
    match node with
    | .file octets => if path.head? == some upName then none else some (path, octets)
    | .directory => none

/-- The steps by which a file is replaced. -/
inductive SaveStep where
  | makeParents
  | openTemporary
  | writeTemporary (octets : List UInt8)
  | replaceFile
deriving DecidableEq, Repr

/-- The temporary file beside a path. -/
def temporary (path : TreePath) : TreePath :=
  match path.reverse with
  | [] => [".tmp"]
  | name :: before => ((name ++ ".tmp") :: before).reverse

/-- The tree after an operation that changes nothing if it is refused, and the refusal. -/
def attempt (tree : FileTree) : Except OsFault FileTree → FileTree × Option OsFault
  | .ok next => (next, none)
  | .error fault => (tree, some fault)

/-- One step of replacing the file at a path: the tree after it, and the refusal if it is refused. -/
def saveStep (tree : FileTree) (path : TreePath) : SaveStep → FileTree × Option OsFault
  | .makeParents => tree.makeParents path
  | .openTemporary => tree.attempt (tree.write (temporary path) [])
  | .writeTemporary octets => tree.attempt (tree.write (temporary path) octets)
  | .replaceFile => tree.attempt (tree.replace (temporary path) path)

/-- The steps of replacing a file. -/
def saveSteps (octets : List UInt8) : List SaveStep :=
  [.makeParents, .openTemporary, .writeTemporary octets, .replaceFile]

/-- Takes steps as far as they go: the tree after them, and the refusal that stopped them. -/
def takeSteps (path : TreePath) : List SaveStep → FileTree → FileTree × Option OsFault
  | [], tree => (tree, none)
  | step :: rest, tree =>
    match tree.saveStep path step with
    | (next, none) => takeSteps path rest next
    | (next, some fault) => (next, some fault)

/-- Replaces the file at a path. -/
def save (tree : FileTree) (path : TreePath) (octets : List UInt8) : FileTree × Option OsFault :=
  takeSteps path (saveSteps octets) tree

end FileTree

end TemplateWorkbench
