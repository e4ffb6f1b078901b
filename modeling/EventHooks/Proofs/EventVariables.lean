import EventHooks.Event.Variables
import EventHooks.Hook.Runner
import EventHooks.Proofs.Environments
import EventHooks.Proofs.TrackIdText

/-!
# The variables of events

The environment of an event as one table, whose names are distinct. Of its values, only the texts
that an event passes on as they came can hold a null character.
-/
namespace EventHooks

/-- The variable of a track identifier, which only a number in range has. -/
def TrackId.entry (id : TrackId) : Environment :=
  (id.format?.map fun text => ("TRACK_ID", text)).toList

/-- The variable of an integer. -/
def integerEntry (name : String) (number : Int) : String × String :=
  (name, IntegerText.render number)

namespace Event

/-- What an event sets after its token, variable by variable. -/
def entries : Event → Environment
  | .playRequestIdChanged request => [integerEntry "PLAY_REQUEST_ID" request]
  | .preloading id => id.entry
  | .stopped id request | .timeToPreloadNextTrack id request | .endOfTrack id request
  | .unavailable id request => id.entry ++ [integerEntry "PLAY_REQUEST_ID" request]
  | .loading id request position | .playing id request position | .paused id request position
  | .positionCorrection id request position | .seeked id request position =>
    id.entry ++ [integerEntry "PLAY_REQUEST_ID" request, integerEntry "POSITION_MS" position]
  | .volumeChanged volume => [integerEntry "VOLUME" volume]
  | .trackChanged item =>
    item.trackId.entry ++
        [("TRACK_NAME", item.name), integerEntry "TRACK_DURATION" item.durationMs] ++
      ((widest? item.covers).map fun cover => ("TRACK_COVER", cover.url)).toList
  | .sessionConnected connection user | .sessionDisconnected connection user =>
    [("CONNECTION_ID", connection), ("USERNAME", user)]
  | .sessionClientChanged client clientName brand model =>
    [("CLIENT_ID", client), ("CLIENT_NAME", clientName), ("CLIENT_BRAND", brand),
      ("CLIENT_MODEL", model)]
  | .shuffleChanged value => [("SHUFFLE", booleanWord value)]
  | .repeatChanged value => [("REPEAT", if value then "all" else "none")]
  | .autoPlayChanged value => [("AUTOPLAY", booleanWord value)]
  | .filterExplicitContentChanged value => [("FILTEREXPLICIT", booleanWord value)]

/-- The environment of an event is its token followed by its table. -/
theorem environment_eq (event : Event) :
    event.environment = ("PLAYER_EVENT", event.variant.token) :: event.entries := by
  cases event with
  | trackChanged item =>
    simp only [environment, setVariables, AudioItem.setVariables, Environment.setTrackId,
      Environment.setInteger, entries, TrackId.entry, integerEntry]
    cases item.trackId.format? <;> cases widest? item.covers <;>
      simp [Environment.set, Environment.erase]
  | preloading id | stopped id | timeToPreloadNextTrack id | endOfTrack id | unavailable id
  | loading id | playing id | paused id | positionCorrection id | seeked id =>
    simp only [environment, setVariables, Environment.setTrackId, Environment.setInteger, entries,
      TrackId.entry, integerEntry]
    cases id.format? <;> simp [Environment.set, Environment.erase]
  | _ => simp [environment, setVariables, Environment.setInteger, entries, integerEntry,
      Environment.set]

end Event

/-! ## Distinct names -/

section Distinct

variable {environment : Environment}

theorem nodup_setTrackId (distinct : environment.names.Nodup) (id : TrackId) :
    (environment.setTrackId id).names.Nodup := by
  unfold Environment.setTrackId
  split
  · exact Environment.nodup_set distinct _ _
  · exact Environment.nodup_erase distinct _

theorem nodup_setInteger (distinct : environment.names.Nodup) (name : String) (number : Int) :
    (environment.setInteger name number).names.Nodup :=
  Environment.nodup_set distinct _ _

theorem nodup_item (distinct : environment.names.Nodup) (item : AudioItem) :
    (item.setVariables environment).names.Nodup := by
  have described := nodup_setInteger (Environment.nodup_set
    (nodup_setTrackId distinct item.trackId) "TRACK_NAME" item.name) "TRACK_DURATION"
    item.durationMs
  unfold AudioItem.setVariables
  cases widest? item.covers with
  | none => exact described
  | some cover => exact Environment.nodup_set described _ _

theorem nodup_setVariables (distinct : environment.names.Nodup) (event : Event) :
    (event.setVariables environment).names.Nodup := by
  cases event with
  | preloading id => exact nodup_setTrackId distinct id
  | stopped id | timeToPreloadNextTrack id | endOfTrack id | unavailable id =>
    exact nodup_setInteger (nodup_setTrackId distinct id) _ _
  | loading id | playing id | paused id | positionCorrection id | seeked id =>
    exact nodup_setInteger (nodup_setInteger (nodup_setTrackId distinct id) _ _) _ _
  | trackChanged item => exact nodup_item distinct item
  | sessionConnected | sessionDisconnected =>
    exact Environment.nodup_set (Environment.nodup_set distinct _ _) _ _
  | sessionClientChanged =>
    exact Environment.nodup_set (Environment.nodup_set (Environment.nodup_set
      (Environment.nodup_set distinct _ _) _ _) _ _) _ _
  | _ => exact Environment.nodup_set distinct _ _

/-- No event sets a variable twice. -/
theorem nodup_environment (event : Event) : event.environment.names.Nodup := by
  have distinct : (Environment.names [("PLAYER_EVENT", event.variant.token)]).Nodup :=
    List.nodup_singleton _
  exact nodup_setVariables distinct event

end Distinct

/-! ## Null characters -/

/-- Whether nothing in an environment keeps it from the system. -/
def Environment.Clean (environment : Environment) : Prop :=
  ∀ entry ∈ environment, '=' ∉ entry.1.toList ∧ hasNull entry.1 = false ∧ hasNull entry.2 = false

namespace Event

/-- The texts of an event that are passed on as they came. -/
def texts : Event → List String
  | .trackChanged item => item.name :: ((widest? item.covers).map Cover.url).toList
  | .sessionConnected connection user | .sessionDisconnected connection user => [connection, user]
  | .sessionClientChanged client clientName brand model => [client, clientName, brand, model]
  | _ => []

/-- Whether a text that is passed on has a null character. -/
def CarriesNull (event : Event) : Prop := ∃ text ∈ event.texts, hasNull text = true

instance (event : Event) : Decidable event.CarriesNull :=
  inferInstanceAs (Decidable (∃ text ∈ event.texts, hasNull text = true))

end Event

theorem hasNull_ofList (chars : List Char) (clean : ∀ c ∈ chars, c ≠ '\x00') :
    hasNull (String.ofList chars) = false := by
  unfold hasNull
  rw [String.toList_ofList]
  simpa using fun member => clean _ member rfl

theorem hasNull_render (number : Int) : hasNull (IntegerText.render number) = false := by
  have digits (magnitude : Nat) : ∀ c ∈ Nat.toDigits 10 magnitude, c ≠ '\x00' := by
    intro c member same
    have digit := Nat.isDigit_of_mem_toDigits (b := 10) (by decide) (by decide) member
    rw [same] at digit
    exact absurd digit (by decide)
  unfold IntegerText.render
  split
  · exact hasNull_ofList _ (digits _)
  · refine hasNull_ofList _ fun c member => ?_
    rcases List.mem_cons.1 member with sign | digit
    · rw [sign]
      decide
    · exact digits _ c digit

theorem hasNull_format? {id : TrackId} {text : String} (form : id.format? = some text) :
    hasNull text = false := by
  obtain ⟨⟨-, digits, -⟩, -⟩ := TrackId.format?_eq_some_iff.1 form
  unfold hasNull
  rw [List.contains_eq_mem, decide_eq_false_iff_not]
  intro member
  exact absurd (digits _ member) (by decide)

theorem hasNull_word (value : Bool) : hasNull (booleanWord value) = false := by
  cases value <;> rfl

namespace Event

/-- A known variable, whose value has no null character or is a text of the event. -/
def Suits (event : Event) (entry : String × String) : Prop :=
  entry.1 ∈ variableNames ∧ (hasNull entry.2 = false ∨ entry.2 ∈ event.texts)

theorem suits_trackId (event : Event) (id : TrackId) : ∀ entry ∈ id.entry, event.Suits entry := by
  intro entry member
  unfold TrackId.entry at member
  cases form : id.format? with
  | none => simp [form] at member
  | some text =>
    obtain rfl : entry = ("TRACK_ID", text) := by simpa [form] using member
    exact ⟨by simp [variableNames], .inl (hasNull_format? form)⟩

theorem suits_integer (event : Event) {name : String} (known : name ∈ variableNames)
    (number : Int) : event.Suits (integerEntry name number) :=
  ⟨known, .inl (hasNull_render number)⟩

theorem suits_item (item : AudioItem) :
    ∀ entry ∈ (trackChanged item).entries, (trackChanged item).Suits entry := by
  refine List.forall_mem_append.2 ⟨List.forall_mem_append.2 ⟨suits_trackId _ _, ?_⟩, ?_⟩
  · refine List.forall_mem_cons.2 ⟨⟨by simp [variableNames], .inr List.mem_cons_self⟩, ?_⟩
    exact List.forall_mem_singleton.2 (suits_integer _ (by decide) _)
  · intro entry member
    cases widest : widest? item.covers with
    | none => simp [widest] at member
    | some cover =>
      obtain rfl : entry = ("TRACK_COVER", cover.url) := by simpa [widest] using member
      exact ⟨by simp [variableNames], .inr (by simp [texts, widest])⟩

theorem suits_entries (event : Event) : ∀ entry ∈ event.entries, event.Suits entry := by
  have request (number : Int) : event.Suits (integerEntry "PLAY_REQUEST_ID" number) :=
    suits_integer _ (by decide) _
  have position (number : Int) : event.Suits (integerEntry "POSITION_MS" number) :=
    suits_integer _ (by decide) _
  cases event with
  | trackChanged item => exact suits_item item
  | sessionConnected | sessionDisconnected | sessionClientChanged =>
    simp [entries, Suits, texts, variableNames]
  | playRequestIdChanged number => exact List.forall_mem_singleton.2 (request number)
  | preloading id => exact suits_trackId _ id
  | stopped id | timeToPreloadNextTrack id | endOfTrack id | unavailable id =>
    exact List.forall_mem_append.2 ⟨suits_trackId _ id, List.forall_mem_singleton.2 (request _)⟩
  | loading id | playing id | paused id | positionCorrection id | seeked id =>
    exact List.forall_mem_append.2 ⟨suits_trackId _ id,
      List.forall_mem_cons.2 ⟨request _, List.forall_mem_singleton.2 (position _)⟩⟩
  | volumeChanged volume => exact List.forall_mem_singleton.2 (suits_integer _ (by decide) _)
  | shuffleChanged value | autoPlayChanged value | filterExplicitContentChanged value =>
    exact List.forall_mem_singleton.2 ⟨by simp [variableNames], .inl (hasNull_word value)⟩
  | repeatChanged value =>
    refine List.forall_mem_singleton.2 ⟨by simp [variableNames], .inl ?_⟩
    cases value <;> rfl

theorem suits_environment (event : Event) : ∀ entry ∈ event.environment, event.Suits entry := by
  rw [environment_eq]
  refine List.forall_mem_cons.2 ⟨⟨by simp [variableNames], .inl ?_⟩, suits_entries event⟩
  cases event.variant <;> decide

theorem mem_environment_of_mem_texts {event : Event} {text : String} (member : text ∈ event.texts) :
    ∃ name, (name, text) ∈ event.environment := by
  rw [environment_eq]
  cases event with
  | trackChanged item =>
    rcases List.mem_cons.1 member with rfl | cover
    · exact ⟨"TRACK_NAME", by simp [entries]⟩
    · refine ⟨"TRACK_COVER", List.mem_cons_of_mem _ (List.mem_append_right _ ?_)⟩
      simpa using cover
  | sessionConnected | sessionDisconnected | sessionClientChanged =>
    simp only [texts, List.mem_cons, List.not_mem_nil, or_false] at member
    simp only [entries, List.mem_cons, Prod.mk.injEq]
    grind
  | _ => simp [texts] at member

end Event

/-- The names of variables are such that every system takes them. -/
theorem plain_variableNames :
    ∀ name ∈ variableNames, '=' ∉ name.toList ∧ hasNull name = false := by
  decide

section Invocations

variable {shell command : String} {base : Environment}

/-- With legal names, nothing but null characters keeps a command from the system. -/
theorem refusal?_of_legal (plainShell : hasNull shell = false)
    (plainCommand : hasNull command = false) (legal : ∀ entry ∈ base, '=' ∉ entry.1.toList) :
    (shellInvocation shell command base).refusal? =
      if base.any (fun entry => hasNull entry.1 || hasNull entry.2) then some .nullCharacter
      else none := by
  have noSign : base.any (·.1.toList.contains '=') = false := by
    rw [List.any_eq_false]
    intro entry member
    simpa using legal entry member
  have arguments : ["-c", command].any hasNull = false := by
    have plainFlag : hasNull "-c" = false := by decide
    simp [plainFlag, plainCommand]
  unfold shellInvocation Invocation.refusal?
  simp only [noSign, plainShell, arguments, Bool.false_or, Bool.false_eq_true, if_false]

/-- On top of a clean environment, an event is kept from the system by its null characters alone. -/
theorem refusal?_shellInvocation (plainShell : hasNull shell = false)
    (plainCommand : hasNull command = false) (clean : base.Clean) (event : Event) :
    (shellInvocation shell command (base.overlay event.environment)).refusal? =
      if event.CarriesNull then some .nullCharacter else none := by
  have suits : ∀ entry ∈ base.overlay event.environment, '=' ∉ entry.1.toList ∧
      hasNull entry.1 = false ∧ (hasNull entry.2 = false ∨ entry.2 ∈ event.texts) := by
    intro entry member
    rcases Environment.mem_overlay member with own | added
    · obtain ⟨noSign, plainName, plainValue⟩ := clean entry own
      exact ⟨noSign, plainName, .inl plainValue⟩
    · obtain ⟨known, value⟩ := event.suits_environment entry added
      obtain ⟨noSign, plainName⟩ := plain_variableNames _ known
      exact ⟨noSign, plainName, value⟩
  have nulls : (base.overlay event.environment).any
      (fun entry => hasNull entry.1 || hasNull entry.2) = decide event.CarriesNull := by
    rw [Bool.eq_iff_iff, List.any_eq_true, decide_eq_true_iff]
    constructor
    · rintro ⟨entry, member, null⟩
      obtain ⟨-, plainName, value⟩ := suits entry member
      rw [plainName, Bool.false_or] at null
      rcases value with plainValue | given
      · rw [plainValue] at null
        cases null
      · exact ⟨entry.2, given, null⟩
    · rintro ⟨text, given, null⟩
      obtain ⟨name, added⟩ := Event.mem_environment_of_mem_texts given
      exact ⟨(name, text), Environment.mem_overlay_of_mem (nodup_environment event) added, by
        simp [null]⟩
  rw [refusal?_of_legal plainShell plainCommand fun entry member => (suits entry member).1, nulls]
  simp only [decide_eq_true_eq]

end Invocations

end EventHooks
