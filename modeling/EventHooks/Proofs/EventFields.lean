import EventHooks.Proofs.EventVariables

/-!
# Fields and the variables they set

Each variant has a table of its fields: their kinds, and the variables that each of them may set.
Looked up in the environment of an event, a variable has the value that its field gives to it
(`get?_environment`).
-/
namespace EventHooks

/-- The kinds of values that fields have. -/
inductive FieldKind
  | trackId
  | integer
  | boolean
  | text
  | audioItem
  deriving DecidableEq, Repr

/-- The variables that are set to integers. -/
def numericVariables : List String :=
  ["PLAY_REQUEST_ID", "POSITION_MS", "VOLUME", "TRACK_DURATION"]

/-- The variables that are set to a word for a boolean. -/
def flagVariables : List String :=
  ["SHUFFLE", "REPEAT", "AUTOPLAY", "FILTEREXPLICIT"]

/-- The variables that are set to texts as they come. -/
def textVariables : List String :=
  ["CONNECTION_ID", "USERNAME", "CLIENT_ID", "CLIENT_NAME", "CLIENT_BRAND", "CLIENT_MODEL"]

/-- The variables that a field of a kind may set: one that goes with the kind, or the four of an
audio item. -/
def FieldKind.Suits : FieldKind → List String → Prop
  | .trackId, names => names = ["TRACK_ID"]
  | .integer, names => ∃ name ∈ numericVariables, names = [name]
  | .boolean, names => ∃ name ∈ flagVariables, names = [name]
  | .text, names => ∃ name ∈ textVariables, names = [name]
  | .audioItem, names => names = ["TRACK_ID", "TRACK_NAME", "TRACK_DURATION", "TRACK_COVER"]

/-- Every variable that a field of a kind may set. -/
def FieldKind.variables : FieldKind → List String
  | .trackId => ["TRACK_ID"]
  | .integer => numericVariables
  | .boolean => flagVariables
  | .text => textVariables
  | .audioItem => ["TRACK_ID", "TRACK_NAME", "TRACK_DURATION", "TRACK_COVER"]

theorem FieldKind.Suits.mem_variables {kind : FieldKind} {names : List String} {name : String}
    (suits : kind.Suits names) (own : name ∈ names) : name ∈ kind.variables := by
  cases kind with
  | trackId | audioItem =>
    obtain rfl : names = _ := suits
    exact own
  | integer | boolean | text =>
    obtain ⟨other, known, rfl⟩ := suits
    exact List.mem_singleton.1 own ▸ known

namespace Variant

/-- The kinds of a variant's fields, in order. -/
def kinds : Variant → List FieldKind
  | .playRequestIdChanged | .volumeChanged => [.integer]
  | .preloading => [.trackId]
  | .stopped | .timeToPreloadNextTrack | .endOfTrack | .unavailable => [.trackId, .integer]
  | .loading | .playing | .paused | .positionCorrection | .seeked => [.trackId, .integer, .integer]
  | .trackChanged => [.audioItem]
  | .sessionConnected | .sessionDisconnected => [.text, .text]
  | .sessionClientChanged => [.text, .text, .text, .text]
  | .shuffleChanged | .repeatChanged | .autoPlayChanged | .filterExplicitContentChanged =>
    [.boolean]

theorem token_injective : Function.Injective token := by
  have distinct : ∀ first ∈ all, ∀ second ∈ all, first.token = second.token → first = second := by
    decide
  exact fun first second same => distinct first first.mem_all second second.mem_all same

theorem nodup_keys (variant : Variant) : ("PLAYER_EVENT" :: variant.keys.flatten).Nodup := by
  cases variant <;> decide

/-- Kinds and variables are in step. -/
theorem suits_keys {variant : Variant} {index : Nat} {kind : FieldKind} {names : List String}
    (isKind : variant.kinds[index]? = some kind) (isNames : variant.keys[index]? = some names) :
    kind.Suits names := by
  have table : List.Forall₂ FieldKind.Suits variant.kinds variant.keys := by
    cases variant <;>
      simp [kinds, keys, FieldKind.Suits, numericVariables, flagVariables, textVariables]
  obtain ⟨inKinds, rfl⟩ := List.getElem?_eq_some_iff.1 isKind
  obtain ⟨inKeys, rfl⟩ := List.getElem?_eq_some_iff.1 isNames
  exact (List.forall₂_iff_get.1 table).2 index inKinds inKeys

end Variant

/-! ## Values of variables -/

namespace FieldValue

/-- The kind of a value. -/
def kind : FieldValue → FieldKind
  | .trackId _ => .trackId
  | .integer _ => .integer
  | .boolean _ => .boolean
  | .text _ => .text
  | .audioItem _ => .audioItem

/-- The word for a boolean in a variable. -/
def flagWord (name : String) (value : Bool) : String :=
  if name = "REPEAT" then (if value then "all" else "none") else booleanWord value

/-- The value that a field gives to one of its variables, if it sets it. -/
def value? (name : String) : FieldValue → Option String
  | .trackId id => id.format?
  | .integer number => some (IntegerText.render number)
  | .boolean value => some (flagWord name value)
  | .text value => some value
  | .audioItem item =>
    if name = "TRACK_ID" then item.trackId.format?
    else if name = "TRACK_NAME" then some item.name
    else if name = "TRACK_DURATION" then some (IntegerText.render item.durationMs)
    else if name = "TRACK_COVER" then (widest? item.covers).map (·.url)
    else none

/-- The variables that a field sets, of those that it may set. -/
def setting (names : List String) (value : FieldValue) : Environment :=
  names.filterMap fun name => (value.value? name).map (name, ·)

theorem get?_setting (names : List String) (value : FieldValue) (name : String) :
    (value.setting names).get? name = if name ∈ names then value.value? name else none := by
  induction names with
  | nil => rfl
  | cons first rest ih =>
    unfold setting at ih ⊢
    rw [List.filterMap_cons]
    cases set : value.value? first with
    | none =>
      simp only [Option.map_none, ih, List.mem_cons]
      by_cases own : name = first
      · simp [own, set]
      · simp [own]
    | some text =>
      simp only [Option.map_some, Environment.get?_cons, ih, List.mem_cons]
      by_cases own : first = name
      · simp [own, ← set]
      · simp [own, Ne.symm own]

theorem setting_trackId (id : TrackId) : (trackId id).setting ["TRACK_ID"] = id.entry := by
  cases form : id.format? <;> simp [setting, value?, TrackId.entry, form]

theorem setting_audioItem (item : AudioItem) :
    (audioItem item).setting ["TRACK_ID", "TRACK_NAME", "TRACK_DURATION", "TRACK_COVER"] =
      (Event.trackChanged item).entries := by
  cases form : item.trackId.format? <;> cases widest : widest? item.covers <;>
    simp [setting, value?, Event.entries, TrackId.entry, integerEntry, form, widest]

end FieldValue

namespace Event

theorem kinds_values (event : Event) : event.values.map FieldValue.kind = event.variant.kinds := by
  cases event <;> rfl

theorem kinds_of_values {event : Event} {index : Nat} {value : FieldValue}
    (isValue : event.values[index]? = some value) :
    event.variant.kinds[index]? = some value.kind := by
  rw [← kinds_values, List.getElem?_map, isValue, Option.map_some]

theorem length_keys (event : Event) : event.variant.keys.length = event.values.length := by
  cases event <;> rfl

/-- What some fields set, in order. -/
def settings (keys : List (List String)) (values : List FieldValue) : Environment :=
  (List.zipWith (fun names value => value.setting names) keys values).flatten

/-- An event sets what its fields set. -/
theorem entries_eq (event : Event) : event.entries = settings event.variant.keys event.values := by
  cases event with
  | trackChanged item =>
    rw [← FieldValue.setting_audioItem]
    exact (List.append_nil _).symm
  | preloading id =>
    rw [entries, ← FieldValue.setting_trackId]
    exact (List.append_nil _).symm
  | stopped id | timeToPreloadNextTrack id | endOfTrack id | unavailable id
  | loading id | playing id | paused id | positionCorrection id | seeked id =>
    rw [entries, ← FieldValue.setting_trackId]
    rfl
  | _ => rfl

section Lookup

variable {keys : List (List String)} {values : List FieldValue} {name : String}

theorem get?_settings_of_not_mem (foreign : name ∉ keys.flatten) :
    (settings keys values).get? name = none := by
  induction keys generalizing values with
  | nil => rfl
  | cons names keys ih =>
    rw [List.flatten_cons, List.mem_append, not_or] at foreign
    cases values with
    | nil => rfl
    | cons value values =>
      unfold settings at ih ⊢
      rw [List.zipWith_cons_cons, List.flatten_cons, Environment.get?_append,
        FieldValue.get?_setting, if_neg foreign.1, Option.none_or, ih foreign.2]

/-- A variable has the value that its own field gives to it. -/
theorem get?_settings (distinct : keys.flatten.Nodup) {index : Nat} {names : List String}
    {value : FieldValue} (isNames : keys[index]? = some names)
    (isValue : values[index]? = some value) (own : name ∈ names) :
    (settings keys values).get? name = value.value? name := by
  induction keys generalizing values index with
  | nil => simp at isNames
  | cons first keys ih =>
    cases values with
    | nil => simp at isValue
    | cons head values =>
      rw [List.flatten_cons, List.nodup_append] at distinct
      obtain ⟨-, distinctRest, apart⟩ := distinct
      have split : settings (first :: keys) (head :: values) =
          head.setting first ++ settings keys values := rfl
      rw [split, Environment.get?_append, FieldValue.get?_setting]
      cases index with
      | zero =>
        cases isNames
        cases isValue
        have foreign : name ∉ keys.flatten := fun member => apart name own name member rfl
        rw [if_pos own, get?_settings_of_not_mem foreign, Option.or_none]
      | succ index =>
        have later : name ∈ keys.flatten :=
          List.mem_flatten.2 ⟨names, List.mem_of_getElem? isNames, own⟩
        have foreign : name ∉ first := fun member => apart name member name later rfl
        rw [if_neg foreign, Option.none_or]
        exact ih distinctRest isNames isValue

end Lookup

section Variables

variable (event : Event)

theorem get?_token : event.environment.get? "PLAYER_EVENT" = some event.variant.token := by
  rw [environment_eq]
  rfl

/-- A variable of a field has the value that the field gives to it. -/
theorem get?_environment {index : Nat} {names : List String} {value : FieldValue} {name : String}
    (isNames : event.variant.keys[index]? = some names)
    (isValue : event.values[index]? = some value) (own : name ∈ names) :
    event.environment.get? name = value.value? name := by
  obtain ⟨other, distinct⟩ := List.nodup_cons.1 event.variant.nodup_keys
  have known : name ∈ event.variant.keys.flatten :=
    List.mem_flatten.2 ⟨names, List.mem_of_getElem? isNames, own⟩
  have notToken : "PLAYER_EVENT" ≠ name := fun same => other (same ▸ known)
  rw [environment_eq, Environment.get?_cons, if_neg notToken, entries_eq]
  exact get?_settings distinct isNames isValue own

/-- An event sets only the variables of its fields. -/
theorem get?_environment_of_not_mem {name : String} (notToken : name ≠ "PLAYER_EVENT")
    (foreign : name ∉ event.variant.keys.flatten) : event.environment.get? name = none := by
  rw [environment_eq, Environment.get?_cons, if_neg (Ne.symm notToken), entries_eq]
  exact get?_settings_of_not_mem foreign

variable {event} {name : String}

/-- A field stands in the table of its variant, beside the variables that go with its kind. -/
theorem exists_names {value : FieldValue} (member : value ∈ event.values) :
    ∃ (index : Nat) (names : List String), event.variant.keys[index]? = some names ∧
      event.values[index]? = some value ∧ value.kind.Suits names := by
  obtain ⟨index, isValue⟩ := List.mem_iff_getElem?.1 member
  have bound := (List.getElem?_eq_some_iff.1 isValue).1
  rw [← length_keys] at bound
  have isNames := List.getElem?_eq_getElem bound
  exact ⟨index, _, isNames, isValue, Variant.suits_keys (kinds_of_values isValue) isNames⟩

/-- A variable of a variant belongs to one of an event's fields. -/
theorem exists_owner (known : name ∈ event.variant.keys.flatten) :
    ∃ (index : Nat) (names : List String) (value : FieldValue),
      event.variant.keys[index]? = some names ∧ event.values[index]? = some value ∧
      name ∈ names ∧ value.kind.Suits names := by
  obtain ⟨names, isKey, own⟩ := List.mem_flatten.1 known
  obtain ⟨index, isNames⟩ := List.mem_iff_getElem?.1 isKey
  have bound := (List.getElem?_eq_some_iff.1 isNames).1
  rw [length_keys] at bound
  have isValue := List.getElem?_eq_getElem bound
  exact ⟨index, names, _, isNames, isValue, own,
    Variant.suits_keys (kinds_of_values isValue) isNames⟩

/-- What is set was set by the token or by a field whose variable it is. -/
theorem exists_field (event : Event) {text : String}
    (set : event.environment.get? name = some text) (notToken : name ≠ "PLAYER_EVENT") :
    ∃ (index : Nat) (names : List String) (value : FieldValue),
      event.variant.keys[index]? = some names ∧ event.values[index]? = some value ∧
      name ∈ names ∧ value.value? name = some text ∧ value.kind.Suits names := by
  by_cases known : name ∈ event.variant.keys.flatten
  · obtain ⟨index, names, value, isNames, isValue, own, suits⟩ := exists_owner known
    refine ⟨index, names, value, isNames, isValue, own, ?_, suits⟩
    rw [← event.get?_environment isNames isValue own, set]
  · rw [event.get?_environment_of_not_mem notToken known] at set
    cases set

end Variables

end Event

end EventHooks
