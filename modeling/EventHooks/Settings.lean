import EventHooks.Environment
import EventHooks.Given

/-!
# Settings

Six settings say how hooks are run. Each is given or not, and a given text may be empty, which
counts as unset where a value is wanted. An update goes through its changes in order and stops at
a name that is no setting; one with the name of the settings themselves makes no change at all.
-/
namespace EventHooks

/-- The settings. -/
inductive Setting
  | shell
  | onevent
  | username
  | usernameCmd
  | passwordCmd
  | logLevel
  deriving DecidableEq, Repr

namespace Setting

/-- Every setting, in the order in which they are stored. -/
def all : List Setting := [.shell, .onevent, .username, .usernameCmd, .passwordCmd, .logLevel]

/-- The name of a setting. -/
def name : Setting → String
  | .shell => "shell"
  | .onevent => "onevent"
  | .username => "username"
  | .usernameCmd => "username_cmd"
  | .passwordCmd => "password_cmd"
  | .logLevel => "log_level"

/-- The setting with a name. -/
def ofName? (name : String) : Option Setting :=
  all.find? (·.name == name)

/-- Every setting is listed. -/
theorem mem_all (setting : Setting) : setting ∈ all := by
  cases setting <;> decide

end Setting

/-- The values of the settings. -/
structure Settings where
  shell : Option (Given String) := none
  onevent : Option (Given String) := none
  username : Option (Given String) := none
  usernameCmd : Option (Given String) := none
  passwordCmd : Option (Given String) := none
  logLevel : Option (Given String) := none
  deriving DecidableEq, Repr

namespace Settings

/-- The value of a setting. -/
def get (settings : Settings) : Setting → Option (Given String)
  | .shell => settings.shell
  | .onevent => settings.onevent
  | .username => settings.username
  | .usernameCmd => settings.usernameCmd
  | .passwordCmd => settings.passwordCmd
  | .logLevel => settings.logLevel

/-- Gives a setting a value. -/
def set (settings : Settings) (setting : Setting) (value : Option (Given String)) : Settings :=
  match setting with
  | .shell => { settings with shell := value }
  | .onevent => { settings with onevent := value }
  | .username => { settings with username := value }
  | .usernameCmd => { settings with usernameCmd := value }
  | .passwordCmd => { settings with passwordCmd := value }
  | .logLevel => { settings with logLevel := value }

/-- The settings with the values that a function gives. -/
def ofFunction (value : Setting → Option (Given String)) : Settings :=
  ⟨value .shell, value .onevent, value .username, value .usernameCmd, value .passwordCmd,
    value .logLevel⟩

/-- Getting what was set. -/
@[simp]
theorem get_set (settings : Settings) (setting other : Setting) (value : Option (Given String)) :
    (settings.set setting value).get other =
      if other = setting then value else settings.get other := by
  cases setting <;> cases other <;> rfl

/-- Settings are known by their values. -/
theorem ext_get {first second : Settings}
    (same : ∀ setting, first.get setting = second.get setting) : first = second := by
  have shell := same .shell
  have onevent := same .onevent
  have username := same .username
  have usernameCmd := same .usernameCmd
  have passwordCmd := same .passwordCmd
  have logLevel := same .logLevel
  cases first
  cases second
  simp_all [get]

/-! ## Updates -/

/-- The name that no change may have, as it stands for the settings themselves. -/
def ownName : String := "self"

/-- Why changes are refused: one has the name of the settings themselves, or the name of one is no
setting. -/
inductive UpdateFault
  | ownName
  | unknown (name : String)
  deriving DecidableEq, Repr

/-- The words for refused changes. -/
def UpdateFault.message : UpdateFault → String
  | .ownName =>
    "HookSettings.update() got multiple values for argument " ++ Text.quoted Settings.ownName
  | .unknown name => s!"Unknown setting: {name}"

/-- Gives a setting a value, if there is one. The result tells whether the setting has changed. -/
def change (settings : Settings) (setting : Setting) (value : Option (Given String)) :
    Settings × Bool :=
  if value.isSome ∧ settings.get setting ≠ value then (settings.set setting value, true)
  else (settings, false)

/-- Goes through changes in order. The result tells whether a setting has changed; at a name that is
no setting, the changes before it stay. -/
def changeAll (settings : Settings) :
    List (String × Option (Given String)) → Settings × Except UpdateFault Bool
  | [] => (settings, .ok false)
  | (name, value) :: changes =>
    match Setting.ofName? name with
    | none => (settings, .error (.unknown name))
    | some setting =>
      let (settings, hasChanged) := settings.change setting value
      let (settings, result) := settings.changeAll changes
      (settings, result.map (hasChanged || ·))

/-- Makes changes, unless one of them has the name of the settings themselves. -/
def update (settings : Settings) (changes : List (String × Option (Given String))) :
    Settings × Except UpdateFault Bool :=
  if changes.any (·.1 == ownName) then (settings, .error .ownName) else settings.changeAll changes

/-! ## Values in force -/

/-- The shell for want of any other. -/
def defaultShell : String := "/bin/sh"

/-- The shell in force: the setting, the variable `SHELL` or the default, the first that is not
empty. -/
def effectiveShell (settings : Settings) (environment : Environment) : String :=
  match Given.filled? settings.shell with
  | some shell => shell
  | none =>
    match environment.get? "SHELL" with
    | some shell => if shell.isEmpty then defaultShell else shell
    | none => defaultShell

/-- The value of a setting on one line. -/
def shownValue : Option (Given String) → String
  | none => "None"
  | some (.value text) => Text.quoted text
  | some .nothing => "[]"

/-- The settings on one line. -/
def shown (settings : Settings) : String :=
  "HookSettings(" ++ ", ".intercalate (Setting.all.map fun setting =>
    setting.name ++ "=" ++ shownValue (settings.get setting)) ++ ")"

end Settings

end EventHooks
