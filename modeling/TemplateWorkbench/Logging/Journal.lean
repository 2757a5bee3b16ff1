import TemplateWorkbench.Logging.Message
import TemplateWorkbench.Settings.FileTree
import TemplateWorkbench.Text.Utf8

/-!
# Journals

A journal collects the messages of the loggers of one name and of all below it.  It has a level and
outlets with levels of their own: the console, and perhaps a file that is begun anew when logging is
set up.  A message is written to every outlet whose level it reaches, unless its logger is not
enabled for it; a logger without a level of its own takes over the one of the outermost logger.

Setting up goes step by step, and one that fails keeps the steps before: when the file cannot be begun,
the level and the console are set already.
-/

namespace TemplateWorkbench

/-- Where messages are written. -/
inductive Outlet where
  | console
  | file (path : TreePath)
deriving DecidableEq, Repr

/-- An outlet with the least level that it takes. -/
structure Handler where
  outlet : Outlet
  level : Int
deriving DecidableEq, Repr

/-- A journal: its level, its handlers, and everything that was written: to the console, and to files
below one directory. -/
structure Journal where
  level : Int := 0
  handlers : List Handler := []
  console : String := ""
  files : FileTree := ⟨[]⟩
deriving Repr

/-- A level by number or by name. -/
inductive LevelChoice where
  | number (level : Int)
  | name (text : String)
deriving DecidableEq, Repr

/-- Why logging cannot be set up. -/
inductive SetupFault where
  | unknownLevel (name : String)
  /-- No file has a name with the null character in it. -/
  | nullCharacter
  | file (fault : OsFault)
deriving DecidableEq, Repr

/-- What is said of a fault. -/
def SetupFault.message : SetupFault → String
  | unknownLevel name => s!"Unknown level: {Text.quote name}"
  | nullCharacter => "embedded null byte"
  | file fault => fault.message

/-- The level that is chosen. -/
def LevelChoice.resolve : LevelChoice → Except SetupFault Int
  | number level => .ok level
  | name text =>
    match levelOfName? text with
    | some level => .ok level
    | none => .error (.unknownLevel text)

namespace Journal

/-- The name of the logger that a journal belongs to. -/
def loggerName : String := "template_playground"

/-- The level of the outermost logger. -/
def outermostLevel : Int := 30

/-- What stands for the time of a message. -/
def timeMark : String := "<TIME>"

/-- The least level for which the loggers of the journal are enabled. -/
def effectiveLevel (journal : Journal) : Int :=
  if journal.level = 0 then outermostLevel else journal.level

/-- Whether the loggers of the journal are enabled for a level. -/
def isEnabledFor (journal : Journal) (level : Int) : Bool :=
  decide (0 < level) && decide (journal.effectiveLevel ≤ level)

/-- Whether a logger stands below the journal's, by what its name has more: nothing, or a name that is
parted off by one point. -/
def isBelow (child : String) : Bool :=
  child.isEmpty || (child.toList.takeWhile (· == '.')).length % 2 == 1

/-- Writes a line to an outlet. -/
def writeTo (journal : Journal) (line : String) : Outlet → Journal
  | .console => { journal with console := journal.console ++ line }
  | .file path =>
    match journal.files.node? path with
    | some (.file octets) =>
      let octets := octets ++ Text.Utf8.encode line.toList
      { journal with files := journal.files.put path (.file octets) }
    | _ => journal

/-- Logs a message through the logger whose name has `child` more than the journal's. -/
def log (journal : Journal) (child : String) (level : Int) (message : String) : Journal :=
  if isBelow child && journal.isEnabledFor level then
    let line := s!"{timeMark} - {loggerName}{child} - {levelName level} - {message}\n"
    let handlers := journal.handlers.filter fun handler => decide (handler.level ≤ level)
    handlers.foldl (fun journal handler => journal.writeTo line handler.outlet) journal
  else journal

/-- A file begun anew: the files with it, and its path. -/
def beginFile (files : FileTree) (name : String) : Except SetupFault (FileTree × TreePath) :=
  if name.toList.contains '\x00' then .error .nullCharacter
  else
    let path := (FilePath.ofText name).collapsed.parts
    match files.write path [] with
    | .ok files => .ok (files, path)
    | .error fault => .error (.file fault)

/-- Sets logging up: a level, the console, and perhaps a file. -/
def setup (journal : Journal) (choice : LevelChoice) (file : Option String) :
    Journal × Except SetupFault Unit :=
  match choice.resolve with
  | .error fault => (journal, .error fault)
  | .ok level =>
    let journal := { journal with level, handlers := [⟨.console, level⟩] }
    match file.filter fun name => !name.isEmpty with
    | none => (journal.log "" 10 "Logging initialized.", .ok ())
    | some name =>
      match beginFile journal.files name with
      | .error fault => (journal, .error fault)
      | .ok (files, path) =>
        let handlers := journal.handlers ++ [⟨.file path, level⟩]
        ({ journal with handlers, files }.log "" 10 "Logging initialized.", .ok ())

/-- The texts of the files. -/
def fileTexts (journal : Journal) : List (String × String) :=
  journal.files.files.map fun (path, octets) =>
    ("/".intercalate path,
      match Text.Utf8.decode octets with
      | .ok characters => String.ofList characters
      | .error _ => "")

/-- The levels of the handlers. -/
def handlerLevels (journal : Journal) : List Int := journal.handlers.map (·.level)

end Journal

end TemplateWorkbench
