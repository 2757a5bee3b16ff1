import TemplateWorkbench.Layout.Panes
import TemplateWorkbench.Number.Integer
import TemplateWorkbench.Unicode.Case
import TemplateWorkbench.Unicode.Character

/-!
# Configuration

A session starts from a configuration: where its settings are kept, the sizes of its panes, its modes,
how strict it is about missing variables, and how much it logs.  A configuration may be read from
environment variables; a value that cannot be read is ignored with a warning, and the default stays.
Only a settings path in the home of an unknown user stops the reading.
-/

namespace TemplateWorkbench

/-- What a session starts from. -/
structure Config where
  /-- Where settings are kept; none keeps them in memory only. -/
  settingsPath : Option FilePath
  space : String := SettingsStore.defaultSpace
  contextWidth : Int := defaultContextWidth
  outputHeight : Int := defaultOutputHeight
  minPaneSize : Int := 0
  renderMode : RenderMode := .html
  viewMode : ViewMode := .render
  strict : Bool := false
  fontSize : Int := 13
  tabSize : Int := 2
  logLevel : Int := 20
deriving DecidableEq, Repr

/-- Environment variables by their names. -/
abbrev EnvironmentVariables := List (String × String)

namespace Config

/-- The front of the names of the environment variables that are read. -/
def variableStem : String := "TEMPLATE_PLAYGROUND_"

/-- The file below the home directory that keeps settings unless another is chosen. -/
def settingsBelowHome : FilePath := .ofText ".template_playground/settings.json"

/-- The configuration in which nothing has been chosen. -/
def standard (home : FilePath) : Config :=
  { settingsPath := some (home.below settingsBelowHome) }

/-- The value of a variable, by its name without the stem. -/
def valueOf? (environment : EnvironmentVariables) (name : String) : Option String :=
  environment.lookup (variableStem ++ name)

/-- A warning. -/
def warning (text : String) : LogMessage := ⟨.warning, "config", text⟩

/-- The integer that a variable gives, or the default with a warning if it gives none. -/
def readInteger (environment : EnvironmentVariables) (name : String) (default : Int) :
    Int × List LogMessage :=
  match valueOf? environment name with
  | none => (default, [])
  | some raw =>
    match Number.readInteger 10 raw.toList with
    | .ok value => (value, [])
    | .error _ =>
      (default,
        [warning s!"Ignoring {variableStem}{name}={Text.quote raw}: not an integer"])

/-- The choice that a variable gives, or the default, with a warning if the choice is unknown.  An
empty variable is no choice. -/
def readChoice {α : Type} (environment : EnvironmentVariables) (name what : String)
    (find? : String → Option α) (default : α) : α × List LogMessage :=
  match (valueOf? environment name).filter fun raw => !raw.isEmpty with
  | none => (default, [])
  | some raw =>
    match find? raw with
    | some choice => (choice, [])
    | none => (default, [warning s!"Ignoring unknown {what} {Text.quote raw}"])

/-- The words that say yes. -/
def affirmative : List String := ["1", "true", "yes", "on"]

/-- The settings path that is chosen: an empty one keeps settings in memory. -/
def readSettingsPath (home : FilePath) (environment : EnvironmentVariables) (default : Option FilePath) :
    Except FilePath.HomeFault (Option FilePath) :=
  match valueOf? environment "SETTINGS_PATH" with
  | none => .ok default
  | some raw =>
    if raw.isEmpty then .ok none else (FilePath.expandHome home (.ofText raw)).map some

/-- The configuration that environment variables give, and the warnings about them. -/
def ofEnvironment (home : FilePath) (environment : EnvironmentVariables) :
    Except FilePath.HomeFault (Config × List LogMessage) := do
  let base := standard home
  let settingsPath ← readSettingsPath home environment base.settingsPath
  let (contextWidth, log₁) := readInteger environment "CONTEXT_WIDTH" base.contextWidth
  let (outputHeight, log₂) := readInteger environment "OUTPUT_HEIGHT" base.outputHeight
  let (minPaneSize, log₃) := readInteger environment "MIN_PANE_SIZE" base.minPaneSize
  let (renderMode, log₄) := readChoice environment "RENDER_MODE" "render mode"
    (fun raw => RenderMode.ofName? (Unicode.toLower raw)) base.renderMode
  let (viewMode, log₅) := readChoice environment "VIEW_MODE" "view mode"
    (fun raw => ViewMode.ofName? (Unicode.toLower raw)) base.viewMode
  let strict := (valueOf? environment "STRICT").any fun raw =>
    affirmative.contains (Unicode.toLower (Unicode.trim raw))
  let (logLevel, log₆) := readChoice environment "LOG_LEVEL" "log level"
    (fun raw => levelOfName? (Unicode.toUpper raw)) base.logLevel
  pure
    ({ base with
        settingsPath, contextWidth, outputHeight, minPaneSize := max minPaneSize 0, renderMode,
        viewMode, strict, logLevel },
      log₁ ++ log₂ ++ log₃ ++ log₄ ++ log₅ ++ log₆)

end Config

end TemplateWorkbench
