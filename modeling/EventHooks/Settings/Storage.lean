import EventHooks.Host
import EventHooks.Json.Reader
import EventHooks.Json.Writer
import EventHooks.Settings
import EventHooks.Text.Lines

/-!
# Stored settings

Settings are stored in a file as a JSON object. Loading takes all six settings from the file or,
whatever is wrong with it, none of them; other members of the object are ignored.
-/
namespace EventHooks

/-- Why stored settings cannot be loaded. -/
inductive LoadFault
  | system (error : OsError)
  | encoding (fault : Utf8.Fault)
  | json (fault : Json.Fault)
  | notObject
  | notText (setting : Setting)

/-- The words for a fault. -/
def LoadFault.message : LoadFault → String
  | .system error => error.message
  | .encoding fault => fault.message
  | .json fault => fault.message
  | .notObject => "settings must be a JSON object"
  | .notText setting => s!"{setting.name} must be a string"

namespace Settings

/-! ## The text of settings -/

/-- A value as it is stored. -/
def writtenValue : Option (Given String) → List Char
  | none => "null".toList
  | some (.value text) => Json.writtenText text
  | some .nothing => "[]".toList

/-- Settings as they are stored. -/
def written (settings : Settings) : String :=
  Json.writeRecord (Setting.all.map fun setting =>
    (setting.name, writtenValue (settings.get setting)))

/-- The stored value of a setting. A member that is null or missing gives none. -/
def storedValue (members : Json.Members) (setting : Setting) :
    Except LoadFault (Option (Given String)) :=
  match members.get? setting.name with
  | none | some .null => .ok none
  | some (.text text) => .ok (some (.value text))
  | some _ => .error (.notText setting)

/-- The settings that an object stores. -/
def ofMembers (members : Json.Members) : Except LoadFault Settings := do
  let shell ← storedValue members .shell
  let onevent ← storedValue members .onevent
  let username ← storedValue members .username
  let usernameCmd ← storedValue members .usernameCmd
  let passwordCmd ← storedValue members .passwordCmd
  let logLevel ← storedValue members .logLevel
  return ⟨shell, onevent, username, usernameCmd, passwordCmd, logLevel⟩

/-- The settings that a text stores. -/
def ofText (text : String) : Except LoadFault Settings :=
  match Json.read text with
  | .error fault => .error (.json fault)
  | .ok (.object members) => ofMembers members
  | .ok _ => .error .notObject

/-- The settings that the contents of a file store. -/
def ofContents (contents : Bytes) : Except LoadFault Settings :=
  match Utf8.decode contents with
  | .error fault => .error (.encoding fault)
  | .ok text => ofText (String.ofList (Text.universalNewlines text.toList))

/-- Writes settings to a file, in a directory that is made if need be. A path that holds a null
character is refused where it stands, and the directory stays if the file cannot be written. -/
def writeTo (settings : Settings) (files : FileStore) (path : Path) :
    Except RequestError Unit × FileStore :=
  if hasNull path.parent.toText then (.error (.refused .nullCharacter), files)
  else
    match files.ensureDirectory path.parent with
    | .error error => (.error (.system error), files)
    | .ok files =>
      if hasNull path.toText then (.error (.refused .nullCharacter), files)
      else
        match files.writeFile path.toText (Utf8.encode settings.written) with
        | .error error => (.error (.system error), files)
        | .ok files => (.ok (), files)

end Settings

/-! ## The file of settings -/

/-- Settings and the file that they are stored in. -/
structure StoredSettings where
  values : Settings := {}
  file? : Option Path := none

namespace StoredSettings

/-- The path of a file in words. -/
def fileName (stored : StoredSettings) : String :=
  match stored.file? with
  | some file => file.toText
  | none => "None"

/-- Whether there is something at a path. A path that is too long cannot be checked. -/
def exists? (files : FileStore) (path : Path) : Except OsError Bool :=
  if hasNull path.toText then .ok false
  else
    match files.status path.toText with
    | .ok _ => .ok true
    | .error .noEntry | .error .notDirectory => .ok false
    | .error errno => .error (.ofErrno errno (some path.toText))

/-- The settings in a file. -/
def readFile (files : FileStore) (path : Path) : Except LoadFault Settings :=
  match files.readFile path.toText with
  | .error error => .error (.system error)
  | .ok contents => Settings.ofContents contents

/-- Loads the settings from their file. The result is an error only if the path cannot be
checked. -/
def load {σ : Type} (stored : StoredSettings) (host : Host σ) :
    Except OsError Unit × StoredSettings × Host σ :=
  let missing := (.ok (), stored,
    host.log .debug .settings s!"Settings file does not exist: {stored.fileName}")
  match stored.file? with
  | none => missing
  | some path =>
    match exists? host.files path with
    | .error error => (.error error, stored, host)
    | .ok false => missing
    | .ok true =>
      match readFile host.files path with
      | .ok values =>
        (.ok (), { stored with values := values },
          host.log .info .settings s!"Loaded settings from {path.toText}")
      | .error fault =>
        (.ok (), stored, host.log .warning .settings
          s!"Failed to load settings from {path.toText}: {fault.message}")

/-- Saves the settings to their file. The result is a refusal if the path holds a null character. -/
def save {σ : Type} (stored : StoredSettings) (host : Host σ) :
    Option Refusal × StoredSettings × Host σ :=
  match stored.file? with
  | none => (none, stored, host)
  | some path =>
    let (result, files) := stored.values.writeTo host.files path
    let host := { host with files := files }
    match result with
    | .ok () =>
      (none, stored, host.log .debug .settings s!"Saved settings to {path.toText}")
    | .error (.system error) =>
      (none, stored, host.log .warning .settings
        s!"Failed to save settings to {path.toText}: {error.message}")
    | .error (.refused refusal) => (some refusal, stored, host)

/-! ## Where settings are stored -/

/-- The home directory: the variable `HOME`, with the slashes at its end left out. -/
def homeDirectory (environment : Environment) : String :=
  let home := (environment.get? "HOME").getD "/root"
  let kept := (home.toList.reverse.dropWhile (· == '/')).reverse
  if kept.isEmpty then "/" else String.ofList kept

/-- Why there is no home directory: its name is a tilde that stands for another one. -/
def homeMessage : String := "Could not determine home directory."

/-- The file for a directory, by default one below the home directory. -/
def fileFor (directory : Option String) (environment : Environment) : Option Path :=
  match directory with
  | some directory => some ((Path.ofText directory).child "settings.json")
  | none =>
    let home := homeDirectory environment
    if home.toList.head? = some '~' then none
    else
      some ((((Path.ofText home).child ".config").child "playerhook").child "settings.json")

end StoredSettings

end EventHooks
