import TemplateWorkbench.Proofs.Json.Members
import TemplateWorkbench.Proofs.Number.IntegerTexts
import TemplateWorkbench.Session.Config

/-!
# Reading a configuration

Every setting that may be chosen has an environment variable of its own, and what the variable says is read
in one of three ways:

```text
the variable        the setting          warnings
is absent           is the default       none
says something      is what it says      none
is malformed        is the default       one
```

A mode or a level that is empty counts as absent, and for the strictness no text is malformed.  For the
settings path the third way is missing: a path below the home of another user, which is not known, stops
the reading.

* `IsReading` : the three ways
* `isReading_readInteger`, `isReading_readChoice`, `isReading_strict`, `isReading_settingsPath` : settings are
  read in them
* `ofEnvironment_reads` : so is the configuration, and it is read unless the path stops it
-/

namespace TemplateWorkbench

/-! ### Homes of others -/

/-- A path that begins with the home of another user. -/
def FilePath.NamesOther (path : FilePath) : Prop :=
  path.root = "" ∧ ∃ first rest, path.parts = first :: rest ∧ first.toList.head? = some '~' ∧ first ≠ "~"

/-- Only the homes of others cannot be found. -/
theorem FilePath.expandHome_eq_error_iff {home path : FilePath} {fault : HomeFault} :
    expandHome home path = .error fault ↔ path.NamesOther := by
  cases fault
  unfold expandHome NamesOther
  by_cases hroot : path.root = ""
  · simp only [hroot, true_and]
    cases hparts : path.parts with
    | nil => simp
    | cons first rest =>
        by_cases hhome : first = "~"
        · subst hhome
          simp
        · simp [hhome]
  · simp [hroot]

namespace Config

/-! ### Settings -/

/-- The settings that environment variables choose. -/
inductive Field where
  | settingsPath | contextWidth | outputHeight | minPaneSize | renderMode | viewMode | strict | logLevel
deriving DecidableEq

namespace Field

/-- The name of the variable for a setting, without the stem. -/
def name : Field → String
  | settingsPath => "SETTINGS_PATH"
  | contextWidth => "CONTEXT_WIDTH"
  | outputHeight => "OUTPUT_HEIGHT"
  | minPaneSize => "MIN_PANE_SIZE"
  | renderMode => "RENDER_MODE"
  | viewMode => "VIEW_MODE"
  | strict => "STRICT"
  | logLevel => "LOG_LEVEL"

/-- What a setting may be. -/
def Value : Field → Type
  | settingsPath => Option FilePath
  | contextWidth | outputHeight | minPaneSize | logLevel => Int
  | renderMode => RenderMode
  | viewMode => ViewMode
  | strict => Bool

/-- A setting in a configuration. -/
def of (config : Config) : (field : Field) → field.Value
  | settingsPath => config.settingsPath
  | contextWidth => config.contextWidth
  | outputHeight => config.outputHeight
  | minPaneSize => config.minPaneSize
  | renderMode => config.renderMode
  | viewMode => config.viewMode
  | strict => config.strict
  | logLevel => config.logLevel

/-- The text that is given for a setting, if one is. -/
def given? (environment : EnvironmentVariables) (field : Field) : Option String :=
  match field with
  | renderMode | viewMode | logLevel => (valueOf? environment field.name).filter fun text => !text.isEmpty
  | _ => valueOf? environment field.name

/-- What a text says of a setting. -/
def Means (home : FilePath) : (field : Field) → String → field.Value → Prop
  | settingsPath, text, path => if text = "" then path = none else
      ∃ chosen, FilePath.expandHome home (.ofText text) = .ok chosen ∧ path = some chosen
  | contextWidth, text, width => Number.Denotes text width
  | outputHeight, text, height => Number.Denotes text height
  | minPaneSize, text, size => ∃ number, Number.Denotes text number ∧ size = max number 0
  | renderMode, text, mode => Unicode.toLower text = mode.name
  | viewMode, text, mode => Unicode.toLower text = mode.name
  | strict, text, isStrict => isStrict = true ↔ Unicode.toLower (Unicode.trim text) ∈ affirmative
  | logLevel, text, level => (Unicode.toUpper text, level) ∈ levelNames

/-- What is said of a text that says nothing of a setting. -/
def complaint (field : Field) (text : String) : LogMessage :=
  match field with
  | renderMode => warning s!"Ignoring unknown render mode {Text.quote text}"
  | viewMode => warning s!"Ignoring unknown view mode {Text.quote text}"
  | logLevel => warning s!"Ignoring unknown log level {Text.quote text}"
  | _ => warning s!"Ignoring {variableStem}{field.name}={Text.quote text}: not an integer"

/-- The settings of which warnings speak, in the order in which they are read. -/
def warned : List Field := [contextWidth, outputHeight, minPaneSize, renderMode, viewMode, logLevel]

end Field

/-! ### Ways of reading -/

/-- The ways in which a text that may be given is read: the setting, and the warnings. -/
inductive IsReading {α : Type} (means : String → α → Prop) (default : α)
    (complaint : String → LogMessage) : Option String → α → List LogMessage → Prop where
  | absent : IsReading means default complaint none default []
  | meant {text : String} {value : α} (hmeans : means text value) :
      IsReading means default complaint (some text) value []
  | malformed {text : String} (hnone : ∀ value, ¬ means text value) :
      IsReading means default complaint (some text) default [complaint text]

/-- How a setting is read from environment variables. -/
def Field.IsRead (home : FilePath) (environment : EnvironmentVariables) (field : Field) :
    field.Value → List LogMessage → Prop :=
  IsReading (field.Means home) (field.of (standard home)) field.complaint (field.given? environment)

section

variable {α β : Type} {means : String → α → Prop} {default : α} {complaint : String → LogMessage}
  {given : Option String} {value value' : α} {messages messages' : List LogMessage}

/-- If a text says one thing at most, it is read in one way. -/
theorem IsReading.unique (hunique : ∀ text a b, means text a → means text b → a = b)
    (hread : IsReading means default complaint given value messages)
    (hread' : IsReading means default complaint given value' messages') : value = value' := by
  cases hread with
  | absent =>
      cases hread'
      rfl
  | meant hmeans =>
      cases hread' with
      | meant hmeans' => exact hunique _ _ _ hmeans hmeans'
      | malformed hnone => exact absurd hmeans (hnone _)
  | malformed hnone =>
      cases hread' with
      | meant hmeans' => exact absurd hmeans' (hnone _)
      | malformed _ => rfl

/-- What holds of the default and of all that a text may say holds of the setting. -/
theorem IsReading.of_forall {P : α → Prop} (hread : IsReading means default complaint given value messages)
    (hdefault : P default) (hmeans : ∀ text a, means text a → P a) : P value := by
  cases hread with
  | absent | malformed _ => exact hdefault
  | meant hvalue => exact hmeans _ _ hvalue

/-- What is made of a setting may be made of its default and of what the text says. -/
theorem IsReading.map (f : α → β) (hread : IsReading means default complaint given value messages) :
    IsReading (fun text b => ∃ a, means text a ∧ b = f a) (f default) complaint given (f value)
      messages := by
  cases hread with
  | absent => exact .absent
  | meant hmeans => exact .meant ⟨_, hmeans, rfl⟩
  | malformed hnone => exact .malformed fun _ ⟨a, hmeans, _⟩ => hnone a hmeans

end

/-! ### Reading settings -/

theorem isReading_readInteger (environment : EnvironmentVariables) (name : String) (default : Int) :
    IsReading Number.Denotes default
      (fun text => warning s!"Ignoring {variableStem}{name}={Text.quote text}: not an integer")
      (valueOf? environment name) (readInteger environment name default).1
      (readInteger environment name default).2 := by
  unfold readInteger
  cases valueOf? environment name with
  | none => exact .absent
  | some text =>
      dsimp only
      cases hread : Number.readInteger 10 text.toList with
      | ok value => exact .meant ((Number.readInteger_ten_iff text value).mp hread)
      | error fault =>
          refine .malformed fun value hdenotes => ?_
          rw [(Number.readInteger_ten_iff text value).mpr hdenotes] at hread
          cases hread

theorem isReading_readChoice {α : Type} {find? : String → Option α} {means : String → α → Prop}
    (hfind : ∀ text value, find? text = some value ↔ means text value) (environment : EnvironmentVariables)
    (name what : String) (default : α) :
    IsReading means default (fun text => warning s!"Ignoring unknown {what} {Text.quote text}")
      ((valueOf? environment name).filter fun text => !text.isEmpty)
      (readChoice environment name what find? default).1
      (readChoice environment name what find? default).2 := by
  unfold readChoice
  cases (valueOf? environment name).filter fun text => !text.isEmpty with
  | none => exact .absent
  | some text =>
      dsimp only
      cases hread : find? text with
      | some value => exact .meant ((hfind text value).mp hread)
      | none =>
          refine .malformed fun value hmeans => ?_
          rw [(hfind text value).mpr hmeans] at hread
          cases hread

theorem isReading_strict (home : FilePath) (environment : EnvironmentVariables) :
    Field.strict.IsRead home environment
      ((valueOf? environment "STRICT").any fun text =>
        affirmative.contains (Unicode.toLower (Unicode.trim text))) [] := by
  have hgiven : Field.strict.given? environment = valueOf? environment "STRICT" := rfl
  rw [Field.IsRead, hgiven]
  cases valueOf? environment "STRICT" with
  | none => exact .absent
  | some text =>
      have hmem : affirmative.contains (Unicode.toLower (Unicode.trim text)) = true ↔
          Unicode.toLower (Unicode.trim text) ∈ affirmative := List.contains_iff_mem
      rw [Option.any_some]
      exact .meant hmem

/-- A settings path is read, unless it is below the home of another user. -/
theorem isReading_settingsPath {home : FilePath} {environment : EnvironmentVariables}
    {path : Option FilePath}
    (hpath : readSettingsPath home environment (standard home).settingsPath = .ok path) :
    Field.settingsPath.IsRead home environment path [] := by
  have hgiven : Field.settingsPath.given? environment = valueOf? environment "SETTINGS_PATH" := rfl
  rw [Field.IsRead, hgiven]
  unfold readSettingsPath at hpath
  cases hvalue : valueOf? environment "SETTINGS_PATH" with
  | none =>
      rw [hvalue] at hpath
      cases hpath
      exact .absent
  | some text =>
      rw [hvalue] at hpath
      refine .meant ?_
      by_cases hempty : text = ""
      · subst hempty
        cases hpath
        rfl
      · simp only [String.isEmpty_iff, hempty] at hpath
        obtain ⟨chosen, hchosen, rfl⟩ := Results.map_eq_ok_iff.mp hpath
        exact (if_neg hempty).mpr ⟨chosen, hchosen, rfl⟩

/-- The path is the only setting that can stop the reading. -/
theorem readSettingsPath_eq_error_iff {home : FilePath} {environment : EnvironmentVariables}
    {default : Option FilePath} {fault : FilePath.HomeFault} :
    readSettingsPath home environment default = .error fault ↔
      ∃ text, Field.settingsPath.given? environment = some text ∧ (FilePath.ofText text).NamesOther := by
  have hgiven : Field.settingsPath.given? environment = valueOf? environment "SETTINGS_PATH" := rfl
  rw [hgiven, readSettingsPath]
  cases valueOf? environment "SETTINGS_PATH" with
  | none => simp
  | some text =>
      by_cases hempty : text = ""
      · subst hempty
        have hnone : ¬ (FilePath.ofText "").NamesOther := fun ⟨_, _, _, hparts, _⟩ => by cases hparts
        simp [hnone]
      · simp [hempty, Results.map_eq_error_iff, FilePath.expandHome_eq_error_iff]

/-- What is found by a name has the name. -/
theorem eq_name_of_find? {α : Type} {name : α → String} {all : List α} {text : String} {a : α}
    (hfind : (all.find? fun other => name other == text) = some a) : text = name a := by
  have hname := List.find?_some hfind
  exact (eq_of_beq hname).symm

theorem renderMode_ofName?_iff (name : String) (mode : RenderMode) :
    RenderMode.ofName? name = some mode ↔ name = mode.name := by
  refine ⟨eq_name_of_find?, ?_⟩
  rintro rfl
  cases mode <;> rfl

theorem viewMode_ofName?_iff (name : String) (mode : ViewMode) :
    ViewMode.ofName? name = some mode ↔ name = mode.name := by
  refine ⟨eq_name_of_find?, ?_⟩
  rintro rfl
  cases mode <;> rfl

theorem levelOfName?_iff (name : String) (level : Int) :
    levelOfName? name = some level ↔ (name, level) ∈ levelNames :=
  ⟨Json.mem_of_lookup_eq_some, Json.lookup_of_mem (by unfold Json.NamesDistinct; decide)⟩

/-! ### The configuration -/

variable {home : FilePath} {environment : EnvironmentVariables}

/-- Whatever configuration comes out, each of its settings is read from its own variable, and the warnings are
those of the readings. -/
theorem exists_messages {config : Config} {log : List LogMessage}
    (hread : ofEnvironment home environment = .ok (config, log)) :
    ∃ messages : Field → List LogMessage,
      (∀ field : Field, field.IsRead home environment (field.of config) (messages field)) ∧
        log = Field.warned.flatMap messages ∧ config.space = (standard home).space ∧
        config.fontSize = (standard home).fontSize ∧ config.tabSize = (standard home).tabSize := by
  have hwidth := isReading_readInteger environment "CONTEXT_WIDTH" (standard home).contextWidth
  have hheight := isReading_readInteger environment "OUTPUT_HEIGHT" (standard home).outputHeight
  have hsize := isReading_readInteger environment "MIN_PANE_SIZE" (standard home).minPaneSize
  have hmode := isReading_readChoice (fun text => renderMode_ofName?_iff (Unicode.toLower text))
    environment "RENDER_MODE" "render mode" (standard home).renderMode
  have hview := isReading_readChoice (fun text => viewMode_ofName?_iff (Unicode.toLower text))
    environment "VIEW_MODE" "view mode" (standard home).viewMode
  have hlevel := isReading_readChoice (fun text => levelOfName?_iff (Unicode.toUpper text))
    environment "LOG_LEVEL" "log level" (standard home).logLevel
  obtain ⟨path, hpath, hrest⟩ := Results.bind_eq_ok_iff.mp hread
  -- What is read is named, lest it be worked out where the configuration is taken apart.
  generalize readInteger environment "CONTEXT_WIDTH" (standard home).contextWidth = width at hrest hwidth
  generalize readInteger environment "OUTPUT_HEIGHT" (standard home).outputHeight = height at hrest hheight
  generalize readInteger environment "MIN_PANE_SIZE" (standard home).minPaneSize = size at hrest hsize
  generalize readChoice environment "RENDER_MODE" "render mode" _ (standard home).renderMode = mode
    at hrest hmode
  generalize readChoice environment "VIEW_MODE" "view mode" _ (standard home).viewMode = view at hrest hview
  generalize readChoice environment "LOG_LEVEL" "log level" _ (standard home).logLevel = level
    at hrest hlevel
  cases hrest
  refine ⟨fun
    | .settingsPath | .strict => []
    | .contextWidth => width.2
    | .outputHeight => height.2
    | .minPaneSize => size.2
    | .renderMode => mode.2
    | .viewMode => view.2
    | .logLevel => level.2, fun field => ?_, by simp [Field.warned], rfl, rfl, rfl⟩
  cases field with
  | settingsPath => exact isReading_settingsPath hpath
  | contextWidth => exact hwidth
  | outputHeight => exact hheight
  | minPaneSize => exact hsize.map (max · 0)
  | renderMode => exact hmode
  | viewMode => exact hview
  | strict => exact isReading_strict home environment
  | logLevel => exact hlevel

theorem eq_of_found {α : Type} {found : Option α} {P : α → Prop} (hfound : ∀ a, found = some a ↔ P a)
    {a b : α} (ha : P a) (hb : P b) : a = b :=
  Option.some.inj (((hfound a).mpr ha).symm.trans ((hfound b).mpr hb))

/-- A text says one thing at most of a setting. -/
theorem Field.Means.unique {field : Field} {text : String} {value other : field.Value}
    (hvalue : field.Means home text value) (hother : field.Means home text other) : value = other := by
  cases field with
  | settingsPath =>
      by_cases hempty : text = ""
      · exact ((if_pos hempty).mp hvalue).trans ((if_pos hempty).mp hother).symm
      · obtain ⟨path, hpath, rfl⟩ := (if_neg hempty).mp hvalue
        obtain ⟨path', hpath', rfl⟩ := (if_neg hempty).mp hother
        rw [hpath] at hpath'
        rw [Except.ok.inj hpath']
  | contextWidth | outputHeight => exact Number.Denotes.unique hvalue hother
  | minPaneSize =>
      obtain ⟨number, hnumber, rfl⟩ := hvalue
      obtain ⟨number', hnumber', rfl⟩ := hother
      rw [hnumber.unique hnumber']
  | renderMode => exact eq_of_found (renderMode_ofName?_iff _) hvalue hother
  | viewMode => exact eq_of_found (viewMode_ofName?_iff _) hvalue hother
  | strict => exact Bool.eq_iff_iff.mpr (hvalue.trans hother.symm)
  | logLevel => exact eq_of_found (levelOfName?_iff _) hvalue hother

end Config

end TemplateWorkbench
