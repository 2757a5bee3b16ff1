import TemplateWorkbench.Number.Integer

/-!
# Log messages

Messages are graded by severities, which are integers of which some have names.
-/

namespace TemplateWorkbench

/-- The severities that the workbench itself logs with. -/
inductive Severity where
  | debug | info | warning | error
deriving DecidableEq, Repr

/-- The number of a severity. -/
def Severity.level : Severity → Int
  | debug => 10
  | info => 20
  | warning => 30
  | error => 40

/-- The name of a severity. -/
def Severity.name : Severity → String
  | debug => "DEBUG"
  | info => "INFO"
  | warning => "WARNING"
  | error => "ERROR"

/-- A message: its severity, the part of the workbench that logged it, and its text. -/
structure LogMessage where
  severity : Severity
  source : String
  text : String
deriving DecidableEq, Repr

/-- A message on one line. -/
def LogMessage.line (message : LogMessage) : String :=
  s!"{message.severity.name} {message.source}: {message.text}"

/-- The names of levels, with the level that each stands for. -/
def levelNames : List (String × Int) :=
  [("CRITICAL", 50), ("FATAL", 50), ("ERROR", 40), ("WARN", 30), ("WARNING", 30), ("INFO", 20),
    ("DEBUG", 10), ("NOTSET", 0)]

/-- The level of a name. -/
def levelOfName? (name : String) : Option Int := levelNames.lookup name

/-- How a level is called: by its name, or by its number if it has none. -/
def levelName (level : Int) : String :=
  match level with
  | 50 => "CRITICAL"
  | 40 => "ERROR"
  | 30 => "WARNING"
  | 20 => "INFO"
  | 10 => "DEBUG"
  | 0 => "NOTSET"
  | other => s!"Level {Number.integerText other}"

end TemplateWorkbench
