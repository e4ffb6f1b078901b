import EventHooks.Proofs.Lines
import EventHooks.Proofs.Utf8Text
import EventHooks.Proofs.WrittenFiles
import EventHooks.Proofs.WrittenJson
import EventHooks.Settings.Storage

/-!
# Settings that are stored

Settings that are texts or not given come back from the file that they were saved to, into any
settings and on any host with that file. A save leaves the settings alone
(`saved_settings_load_back`).
-/
namespace EventHooks

open Json

theorem Text.universalNewlines_of_plain {chars : List Char} (plain : ∀ c ∈ chars, IsPlain c) :
    universalNewlines chars = chars :=
  universalNewlines_of_not_mem fun member => absurd (plain _ member) (by decide)

namespace Settings

/-- Each setting is a text or not given. -/
def AreTexts (settings : Settings) : Prop :=
  ∀ setting, settings.get setting ≠ some .nothing

/-! ## The text of settings -/

/-- The value that stands for a setting in a file. -/
def storedJson : Option (Given String) → Json
  | none => .null
  | some (.value content) => .text content
  | some .nothing => .array []

/-- The members that stand for settings in a file. -/
def members (settings : Settings) : Members :=
  Setting.all.map fun setting => (setting.name, storedJson (settings.get setting))

theorem writes_writtenValue (value : Option (Given String)) :
    Writes (writtenValue value) (storedJson value) := by
  match value with
  | none => exact writes_null
  | some (.value content) => exact writes_text content
  | some .nothing => exact ⟨fun _ => rfl, fun _ _ => rfl⟩

theorem read_written (settings : Settings) :
    Json.read settings.written = .ok (.object settings.members) := by
  have writes : List.Forall₂ WritesMember
      (Setting.all.map fun setting => (setting.name, writtenValue (settings.get setting)))
      settings.members := by
    rw [members, List.forall₂_map_left_iff, List.forall₂_map_right_iff, List.forall₂_same]
    exact fun setting _ => ⟨rfl, writes_writtenValue (settings.get setting)⟩
  have distinct : Members.setAll [] settings.members = settings.members := by
    simp [Members.setAll, members, Setting.all, Setting.name, Members.set]
  rw [written, read_writeRecord writes (by simp [Setting.all]), distinct]

theorem get?_members (settings : Settings) (setting : Setting) :
    settings.members.get? setting.name = some (storedJson (settings.get setting)) := by
  cases setting <;> simp [members, Members.get?, Setting.all, Setting.name]

theorem storedValue_members {settings : Settings} (texts : settings.AreTexts) (setting : Setting) :
    storedValue settings.members setting = .ok (settings.get setting) := by
  rw [storedValue, get?_members]
  match given : settings.get setting with
  | none => rfl
  | some (.value content) => rfl
  | some .nothing => exact absurd given (texts setting)

theorem ofText_written {settings : Settings} (texts : settings.AreTexts) :
    ofText settings.written = .ok settings := by
  rw [ofText, read_written]
  simp only [ofMembers, storedValue_members texts]
  rfl

theorem isPlain_written (settings : Settings) : ∀ c ∈ settings.written.toList, IsPlain c := by
  refine isPlain_writeRecord fun member isMember => ?_
  obtain ⟨setting, -, rfl⟩ := List.mem_map.1 isMember
  match settings.get setting with
  | none => exact isPlain_of_all rfl
  | some (.value content) => exact isPlain_writtenText content
  | some .nothing => exact isPlain_of_all rfl

/-- What a file holds after a save reads as the settings. -/
theorem ofContents_written {settings : Settings} (texts : settings.AreTexts) :
    ofContents (Utf8.encode settings.written) = .ok settings := by
  simp only [ofContents, Utf8.decode_encode,
    Text.universalNewlines_of_plain settings.isPlain_written, String.ofList_toList,
    ofText_written texts]

theorem written_injective {settings others : Settings} (texts : settings.AreTexts)
    (otherTexts : others.AreTexts)
    (same : Utf8.encode settings.written = Utf8.encode others.written) : settings = others := by
  have read := ofContents_written texts
  rw [same, ofContents_written otherTexts] at read
  exact (Except.ok.inj read).symm

/-- A write that meets no error writes the settings at a path without null characters. -/
theorem writeTo_eq_ok {settings : Settings} {files : FileStore} {path : Path}
    (noError : (settings.writeTo files path).1 = .ok ()) :
    hasNull path.toText = false ∧ ∃ before after, settings.writeTo files path = (.ok (), after) ∧
      FileStore.writeFile before path.toText (Utf8.encode settings.written) = .ok after := by
  unfold writeTo at noError ⊢
  cases directory : hasNull path.parent.toText with
  | true => simp [directory] at noError
  | false =>
    cases made : files.ensureDirectory path.parent with
    | error error => simp [directory, made] at noError
    | ok before =>
      cases null : hasNull path.toText with
      | true => simp [directory, made, null] at noError
      | false =>
        cases wrote : before.writeFile path.toText (Utf8.encode settings.written) with
        | error error => simp [directory, made, null, wrote] at noError
        | ok after => exact ⟨rfl, before, after, by simp [wrote], wrote⟩

end Settings

/-! ## Saving and loading -/

/-- A path leads to a file with some contents. -/
def FileStore.Holds (files : FileStore) (path : Path) (contents : Bytes) : Prop :=
  ∃ executable, files.status path.toText = .ok (.file contents executable)

theorem Host.files_log {σ : Type} (host : Host σ) (level : LogLevel) (source : LogSource)
    (message : String) : (host.log level source message).files = host.files := by
  unfold Host.log
  split <;> rfl

/-- A directory that is there will do. -/
theorem FileStore.ensureDirectory_of_directory {files : FileStore} {path : Path}
    (found : files.status path.toText = .ok .directory) :
    files.ensureDirectory path = .ok files := by
  have present : files.makeDirectory path.toText = .error .fileExists := by
    unfold status at found
    unfold makeDirectory
    split at found
    · rfl
    · cases found
    · cases found
  unfold ensureDirectory
  simp only [present, ensureOneDirectory, found]

namespace StoredSettings

variable {σ : Type}

/-- A save writes its file: it meets no error, and afterwards its path leads to a file, with some
contents. -/
structure Saves (stored : StoredSettings) (host : Host σ) (path : Path) (contents : Bytes) :
    Prop where
  file : stored.file? = some path
  noError : (stored.values.writeTo host.files path).1 = .ok ()
  holds : (stored.save host).2.2.files.Holds path contents

theorem save_settings (stored : StoredSettings) (host : Host σ) :
    (stored.save host).2.1 = stored := by
  unfold save
  cases stored.file? with
  | none => rfl
  | some path =>
    rcases wrote : stored.values.writeTo host.files path with ⟨(error | refusal) | done, files⟩ <;>
      simp only [wrote]

theorem save_files {stored : StoredSettings} {host : Host σ} {path : Path} {after : FileStore}
    (file : stored.file? = some path)
    (wrote : stored.values.writeTo host.files path = (.ok (), after)) :
    (stored.save host).2.2.files = after := by
  simp only [save, file, wrote, Host.files_log]

/-- What a save writes is the text of the settings. -/
theorem Saves.contents {stored : StoredSettings} {host : Host σ} {path : Path} {contents : Bytes}
    (saves : stored.Saves host path contents) :
    contents = Utf8.encode stored.values.written ∧ hasNull path.toText = false := by
  obtain ⟨plain, before, after, same, wrote⟩ := Settings.writeTo_eq_ok saves.noError
  obtain ⟨executable, found⟩ := saves.holds
  rw [save_files saves.file same] at found
  exact ⟨FileStore.content_of_writeFile wrote found, plain⟩

theorem exists?_of_holds {files : FileStore} {path : Path} {contents : Bytes}
    (plain : hasNull path.toText = false) (holds : files.Holds path contents) :
    exists? files path = .ok true := by
  obtain ⟨executable, found⟩ := holds
  simp [exists?, plain, found]

theorem readFile_of_holds {files : FileStore} {path : Path} {contents : Bytes}
    (holds : files.Holds path contents) : readFile files path = Settings.ofContents contents := by
  obtain ⟨executable, found⟩ := holds
  simp only [readFile, FileStore.readFile, found]

theorem load_of_holds {prior : StoredSettings} {later : Host σ} {path : Path}
    {settings : Settings} (texts : settings.AreTexts) (plain : hasNull path.toText = false)
    (file : prior.file? = some path)
    (holds : later.files.Holds path (Utf8.encode settings.written)) :
    prior.load later = (.ok (), { prior with values := settings },
      later.log .info .settings s!"Loaded settings from {path.toText}") := by
  have read : readFile later.files path = .ok settings := by
    rw [readFile_of_holds holds, Settings.ofContents_written texts]
  simp only [load, file, exists?_of_holds plain holds, read]

/-- A save leaves the settings as they are. Where settings that are texts or not given have been
written to a file, a load of that file gives them to any settings, and says so; and two such files
are the same exactly if the settings are. -/
theorem saved_settings_load_back :
    (∀ (stored : StoredSettings) (host : Host σ), (stored.save host).2.1 = stored) ∧
    ∀ (stored : StoredSettings) (host : Host σ) (path : Path) (contents : Bytes),
      stored.values.AreTexts → stored.Saves host path contents →
        (∀ (prior : StoredSettings) (later : Host σ), prior.file? = some path →
          later.files.Holds path contents →
            prior.load later = (.ok (), { prior with values := stored.values },
              later.log .info .settings s!"Loaded settings from {path.toText}")) ∧
        ∀ (other : StoredSettings) (otherHost : Host σ) (otherPath : Path)
          (otherContents : Bytes), other.values.AreTexts →
            other.Saves otherHost otherPath otherContents →
              (contents = otherContents ↔ stored.values = other.values) := by
  refine ⟨save_settings, fun stored host path contents texts saves => ⟨?_, ?_⟩⟩
  · intro prior later file holds
    rw [saves.contents.1] at holds
    exact load_of_holds texts saves.contents.2 file holds
  · intro other otherHost otherPath otherContents otherTexts otherSaves
    rw [saves.contents.1, otherSaves.contents.1]
    exact ⟨Settings.written_injective texts otherTexts, fun same => by rw [same]⟩

/-- Settings with quotes, a backslash, control characters, a line separator and a character that
takes a surrogate pair. One is empty and one is not given. -/
def awkward : StoredSettings where
  values := {
    shell := some (.value "/opt/\"my shell\"/sh\\")
    onevent := some (.value "printf x\n\t\x01\x7f")
    username := some (.value "\u2028é𝄞")
    usernameCmd := some (.value "")
    passwordCmd := none
    logLevel := some (.value "null") }
  file? := some (.ofText "settings.json")

/-- A host with one directory, in which paths start. -/
def workshop : Host Unit where
  environment := []
  files := ⟨[(["work"], .directory)], ["work"]⟩
  system := ()

theorem awkward_saves :
    awkward.Saves workshop (.ofText "settings.json") (Utf8.encode awkward.values.written) := by
  have made : workshop.files.ensureDirectory (Path.ofText "settings.json").parent =
      .ok workshop.files := FileStore.ensureDirectory_of_directory rfl
  have written : awkward.values.writeTo workshop.files (.ofText "settings.json") =
      (.ok (), workshop.files.put ["work", "settings.json"]
        (.file (Utf8.encode awkward.values.written) false)) := by
    have notNull : hasNull (Path.ofText "settings.json").parent.toText = false := by decide +kernel
    unfold Settings.writeTo
    rw [notNull, made]
    rfl
  refine ⟨rfl, by rw [written], false, ?_⟩
  rw [save_files rfl written]
  rfl

/-- Another program that starts on the host finds the settings. -/
theorem awkward_load_back :
    awkward.values.AreTexts ∧
      awkward.Saves workshop (.ofText "settings.json") (Utf8.encode awkward.values.written) ∧
      ({ file? := awkward.file? } : StoredSettings).load (awkward.save workshop).2.2 =
        (.ok (), awkward, (awkward.save workshop).2.2.log .info .settings
          "Loaded settings from settings.json") := by
  have texts : awkward.values.AreTexts := by
    intro setting
    cases setting <;> decide
  refine ⟨texts, awkward_saves, ?_⟩
  have loads := (saved_settings_load_back.2 awkward workshop (.ofText "settings.json") _ texts
    awkward_saves).1
  exact loads { file? := awkward.file? } (awkward.save workshop).2.2 rfl awkward_saves.holds

end StoredSettings

end EventHooks
