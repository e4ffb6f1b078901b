import EventHooks.Proofs.JsonObjects
import EventHooks.Proofs.SettingsInForce

/-!
# Settings that are loaded

A load takes all six settings from a file that stores them, and keeps all six otherwise. Either way
it is no error, adds one record and changes nothing else (`load_all_or_nothing`).
-/
namespace EventHooks

namespace Settings

/-! ## What contents store -/

/-- A member that is missing or null stands for no value, and a text for itself. No other member
stands for the value of a setting. -/
inductive Stands : Option Json → Option (Given String) → Prop
  | missing : Stands none none
  | null : Stands (some .null) none
  | text (content : String) : Stands (some (.text content)) (some (.value content))

/-- The contents of a file store settings: the bytes are those of a text which, with each line
ending as a line feed, is a JSON object, and there the last member with the name of a setting, if
there is one, stands for its value. -/
def IsStoredIn (settings : Settings) (contents : Bytes) : Prop :=
  ∃ text listed, Utf8.encode text = contents ∧
    Json.IsObject (String.ofList (Text.universalNewlines text.toList)) listed ∧
    ∀ setting, Stands (Json.Members.get? listed.reverse setting.name) (settings.get setting)

section Contents

variable {settings : Settings} {members : Json.Members}

theorem storedValue_eq_ok_iff {setting : Setting} {value : Option (Given String)} :
    storedValue members setting = .ok value ↔ Stands (members.get? setting.name) value := by
  unfold storedValue
  constructor
  · intro stored
    split at stored
    · rename_i missing
      cases stored
      exact missing ▸ .missing
    · rename_i null
      cases stored
      exact null ▸ .null
    · rename_i content text
      cases stored
      exact text ▸ .text content
    · cases stored
  · intro stands
    generalize members.get? setting.name = member at stands
    cases stands <;> rfl

theorem ofMembers_eq_ok_iff : ofMembers members = .ok settings ↔
    ∀ setting : Setting, Stands (members.get? setting.name) (settings.get setting) := by
  constructor
  · intro read setting
    exact storedValue_eq_ok_iff.1 (StoredSettings.storedValue_of_ofMembers read setting)
  · intro stands
    simp only [ofMembers, storedValue_eq_ok_iff.2 (stands _)]
    rfl

theorem get?_listed (listed : Json.Members) (name : String) :
    Json.Members.get? (Json.Members.setAll [] listed) name =
      Json.Members.get? listed.reverse name := by
  rw [Json.Members.get?_setAll]
  exact Option.or_none

theorem ofText_eq_ok_iff {text : String} : ofText text = .ok settings ↔
    ∃ listed, Json.IsObject text listed ∧
      ∀ setting : Setting,
        Stands (Json.Members.get? listed.reverse setting.name) (settings.get setting) := by
  constructor
  · intro stored
    unfold ofText at stored
    split at stored
    · cases stored
    · rename_i isRead
      obtain ⟨listed, isObject, rfl⟩ := Json.exists_isObject_of_read isRead
      have stands := ofMembers_eq_ok_iff.1 stored
      simp only [get?_listed] at stands
      exact ⟨listed, isObject, stands⟩
    · cases stored
  · rintro ⟨listed, isObject, stands⟩
    simp only [ofText, isObject.accepted]
    refine ofMembers_eq_ok_iff.2 fun setting => ?_
    rw [get?_listed]
    exact stands setting

/-- Contents are read exactly if they store settings, and as these. -/
theorem ofContents_eq_ok_iff {contents : Bytes} :
    ofContents contents = .ok settings ↔ settings.IsStoredIn contents := by
  constructor
  · intro stored
    unfold ofContents at stored
    split at stored
    · cases stored
    · rename_i text decoded
      have encoded : Utf8.encode text = contents :=
        Utf8.decode?_eq_some_iff.1 (by rw [Utf8.decode?, decoded]; rfl)
      obtain ⟨listed, isObject, stands⟩ := ofText_eq_ok_iff.1 stored
      exact ⟨text, listed, encoded, isObject, stands⟩
  · rintro ⟨text, listed, rfl, isObject, stands⟩
    simp only [ofContents, Utf8.decode_encode]
    exact ofText_eq_ok_iff.2 ⟨listed, isObject, stands⟩

end Contents

end Settings

/-! ## Loads -/

theorem Host.log_eq {σ : Type} (host : Host σ) (level : LogLevel) (source : LogSource)
    (message : String) : host.log level source message =
      { host with
        records := host.records ++
          if level.passes host.threshold then [⟨level, source, message⟩] else [] } := by
  unfold log
  split_ifs
  · rfl
  · rw [List.append_nil]

namespace StoredSettings

variable {σ : Type}

/-- A path leads to a file whose contents store settings. -/
def Stores (files : FileStore) (path : Path) (settings : Settings) : Prop :=
  hasNull path.toText = false ∧ ∃ contents, files.Holds path contents ∧ settings.IsStoredIn contents

/-- A load is no error and ends with some values of the settings. One record of some level is made,
and nothing else is changed: neither the files nor where the settings are stored. -/
structure LoadsAs (stored : StoredSettings) (host : Host σ) (values : Settings) (level : LogLevel) :
    Prop where
  noError : (stored.load host).1 = .ok ()
  values : (stored.load host).2.1 = { stored with values := values }
  oneRecord : ∃ message, (stored.load host).2.2 =
    { host with
      records := host.records ++
        if level.passes host.threshold then [⟨level, .settings, message⟩] else [] }

section Loads

variable {files : FileStore} {path : Path} {stored : StoredSettings} {host : Host σ}

theorem LoadsAs.of_eq {values : Settings} {level : LogLevel} {message : String}
    (loads : stored.load host =
      (.ok (), { stored with values := values }, host.log level .settings message)) :
    stored.LoadsAs host values level :=
  ⟨by rw [loads], by rw [loads], message, by rw [loads, Host.log_eq]⟩

/-- A load that reads nothing keeps the settings. -/
theorem LoadsAs.of_kept {level : LogLevel} {message : String}
    (loads : stored.load host = (.ok (), stored, host.log level .settings message)) :
    stored.LoadsAs host stored.values level :=
  .of_eq loads

/-- A device or a program reads as nothing, and that stores no settings. -/
theorem ofContents_nil (settings : Settings) : Settings.ofContents [] ≠ .ok settings := by
  intro read
  cases read

theorem readFile_eq_ok_iff {settings : Settings} : readFile files path = .ok settings ↔
    ∃ contents, files.Holds path contents ∧ settings.IsStoredIn contents := by
  simp only [← Settings.ofContents_eq_ok_iff]
  constructor
  · intro read
    unfold readFile FileStore.readFile at read
    split at read
    · cases read
    · rename_i contents opened
      split at opened
      · rename_i found
        cases opened
        exact ⟨contents, ⟨_, found⟩, read⟩
      · cases opened
      · cases opened
        exact absurd read (ofContents_nil settings)
      · cases opened
  · rintro ⟨contents, holds, read⟩
    rw [readFile_of_holds holds, read]

/-- Settings are stored at a path exactly if something is there and they are read from it. -/
theorem stores_iff {settings : Settings} : Stores files path settings ↔
    exists? files path = .ok true ∧ readFile files path = .ok settings := by
  rw [Stores, readFile_eq_ok_iff]
  constructor
  · rintro ⟨plain, contents, holds, isStored⟩
    exact ⟨exists?_of_holds plain holds, contents, holds, isStored⟩
  · rintro ⟨there, holds⟩
    refine ⟨?_, holds⟩
    unfold exists? at there
    split at there
    · cases there
    · rename_i plain
      simpa using plain

/-- Without a file there is nothing to load. Where it can be checked whether something is at the
path of the settings, a load takes all of them from a file that stores settings, whatever they have
been, and says so. Otherwise it keeps all of them; it warns if something is at the path. -/
theorem load_all_or_nothing (stored : StoredSettings) (host : Host σ) :
    (stored.file? = none → stored.LoadsAs host stored.values .debug) ∧
    ∀ path present, stored.file? = some path → exists? host.files path = .ok present →
      (∀ values, Stores host.files path values → stored.LoadsAs host values .info) ∧
      ((∀ values, ¬ Stores host.files path values) →
        stored.LoadsAs host stored.values (if present then .warning else .debug)) := by
  refine ⟨fun noFile => ?_, ?_⟩
  · exact .of_kept (by simp only [load, noFile]; rfl)
  intro path present file checked
  refine ⟨fun values stores => ?_, fun nothing => ?_⟩
  · obtain ⟨there, read⟩ := stores_iff.1 stores
    exact .of_eq (by simp only [load, file, there, read]; rfl)
  · cases present with
    | false => exact .of_kept (by simp only [load, file, checked]; rfl)
    | true =>
      cases read : readFile host.files path with
      | ok values => exact absurd (stores_iff.2 ⟨checked, read⟩) (nothing values)
      | error fault => exact .of_kept (by simp only [load, file, checked, read]; rfl)

/-- The workshop with a file of settings. -/
def workshopWith (content : String) : Host Unit :=
  { workshop with
    files := workshop.files.put ["work", "settings.json"] (.file (Utf8.encode content) false) }

/-- A document that lists the shell twice, a member that is no setting, and a null. -/
def twoShells : String :=
  "\x7b\"shell\":\"a\",\"x\":7,\r\n\"onevent\":null,\"shell\":\"sh\"\x7d"

/-- A document in which a command comes before a shell that is a number. -/
def numberedShell : String := "\x7b\"onevent\":\"a\",\"shell\":5\x7d"

theorem stores_iff_of_there {settings : Settings} (there : exists? files path = .ok true) :
    Stores files path settings ↔ (readFile files path).toOption = some settings := by
  rw [stores_iff]
  cases readFile files path <;> simp [there, Except.toOption]

theorem stores_twoShells : Stores (workshopWith twoShells).files (.ofText "settings.json")
    { shell := some (.value "sh") } :=
  (stores_iff_of_there (by decide +kernel)).2 (by decide +kernel)

theorem not_stores_numberedShell (values : Settings) :
    ¬ Stores (workshopWith numberedShell).files (.ofText "settings.json") values := by
  have unread : (readFile (workshopWith numberedShell).files
      (.ofText "settings.json")).toOption = none := by decide +kernel
  rw [stores_iff_of_there (by decide +kernel), unread]
  exact nofun

/-- The last shell of the file is taken and no old setting is left. Nothing is taken where the shell
is a number, or where there is no file. -/
theorem last_shell_is_loaded :
    Stores (workshopWith twoShells).files (.ofText "settings.json")
      { shell := some (.value "sh") } ∧
    awkward.LoadsAs (workshopWith twoShells) { shell := some (.value "sh") } .info ∧
    awkward.LoadsAs (workshopWith numberedShell) awkward.values .warning ∧
    awkward.LoadsAs workshop awkward.values .debug := by
  have absent : exists? workshop.files (.ofText "settings.json") = .ok false := by decide +kernel
  have given := ((load_all_or_nothing awkward (workshopWith twoShells)).2
    (.ofText "settings.json") true rfl (by decide +kernel)).1
  have refused := ((load_all_or_nothing awkward (workshopWith numberedShell)).2
    (.ofText "settings.json") true rfl (by decide +kernel)).2
  have missing := ((load_all_or_nothing awkward workshop).2
    (.ofText "settings.json") false rfl absent).2
  refine ⟨stores_twoShells, given _ stores_twoShells, refused not_stores_numberedShell,
    missing fun values stores => ?_⟩
  rw [stores_iff, absent] at stores
  cases stores.1

end Loads

end StoredSettings

end EventHooks
