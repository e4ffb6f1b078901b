import EventHooks.Event.Stream
import EventHooks.Proofs.FieldReading
import EventHooks.Proofs.JsonLimits

/-!
# Events that are read from documents

Whatever route an integer or an identifier takes into an event, it is one that can be written. So
the variables of an event that is read from a document are always there, and well formed
(`decoded_well_formed`).
-/
namespace EventHooks

/-- The integers that a field holds. -/
def FieldValue.integers : FieldValue → List Int
  | .integer number => [number]
  | .audioItem item => item.durationMs :: item.covers.flatMap fun cover => [cover.width, cover.height]
  | _ => []

/-- The identifiers that a field holds. -/
def FieldValue.trackIds : FieldValue → List TrackId
  | .trackId id => [id]
  | .audioItem item => [item.trackId]
  | _ => []

namespace Event

/-- The integers that an event holds, those of pictures included. -/
def integers (event : Event) : List Int := event.values.flatMap FieldValue.integers

/-- The identifiers that an event holds. -/
def trackIds (event : Event) : List TrackId := event.values.flatMap FieldValue.trackIds

end Event

/-- All that a field holds can be written. -/
structure FieldValue.Sound (value : FieldValue) : Prop where
  integers : ∀ number ∈ value.integers, IntegerText.Renders number
  trackIds : ∀ id ∈ value.trackIds, 0 ≤ id.raw ∧ id.raw < 2 ^ 128

/-! ## What fields hold -/

namespace Event

section Reading

variable {members : Json.Members} {value : Json}

/-- An integer that a field takes from a document can be written. -/
theorem renders_of_readInteger {number : Int} (within : value.WithinLimits)
    (read : readInteger value = .ok number) : IntegerText.Renders number := by
  cases within with
  | integer renders =>
    cases read
    exact renders
  | bool value =>
    cases read
    exact IntegerText.renders_of_small (by cases value <;> decide)
  | float renders => exact renders number (mapError_eq_ok_iff.1 read)
  | text given => exact IntegerText.renders_of_read (mapError_eq_ok_iff.1 read)
  | null | array | object => cases read

/-- An identifier is in range, whatever it is read from. -/
theorem inRange_of_readTrackId {id : TrackId} (read : readTrackId value = .ok id) :
    0 ≤ id.raw ∧ id.raw < 2 ^ 128 := by
  unfold readTrackId at read
  split at read
  · cases read
  · split_ifs at read
    split at read
    · rename_i number _
      rw [mapError_eq_ok_iff, TrackId.ofNumber] at read
      split_ifs at read with small
      cases read
      have limit : (TrackId.bound : Int) = 2 ^ 128 := by norm_num [TrackId.bound]
      dsimp only
      omega
    · cases read

theorem renders_of_readCover {cover : Cover} (within : (Json.object members).WithinLimits)
    (read : readCover members = .ok cover) :
    IntegerText.Renders cover.width ∧ IntegerText.Renders cover.height := by
  simp only [readCover, bind_eq_ok_iff, member_eq_ok_iff] at read
  obtain ⟨url, -, given, isWidth, width, readWidth, other, isHeight, height, readHeight, same⟩ := read
  cases same
  exact ⟨renders_of_readInteger (within.member isWidth) readWidth,
    renders_of_readInteger (within.member isHeight) readHeight⟩

theorem renders_of_readCovers {covers : List Cover} (within : value.WithinLimits)
    (read : readCovers value = .ok covers) :
    ∀ cover ∈ covers, IntegerText.Renders cover.width ∧ IntegerText.Renders cover.height := by
  unfold readCovers at read
  split_ifs at read with empty
  · cases read
    simp
  · split at read
    · split at read
      · rename_i objects isObjects
        obtain rfl := objects?_eq_some_iff.1 isObjects
        intro cover member
        obtain ⟨given, isGiven, readOne⟩ := exists_of_mapM_eq_ok read cover member
        exact renders_of_readCover (within.item (List.mem_map_of_mem isGiven)) readOne
      · cases read
    · cases read

theorem sound_of_readAudioItem {item : AudioItem} (within : value.WithinLimits)
    (read : readAudioItem value = .ok item) : (FieldValue.audioItem item).Sound := by
  cases value with
  | object members =>
    simp only [readAudioItem, bind_eq_ok_iff, member_eq_ok_iff] at read
    obtain ⟨covers, isCovers, given, -, id, identified, name, -, length, isLength, duration,
      isDuration, same⟩ := read
    cases same
    have pictured : ∀ cover ∈ covers,
        IntegerText.Renders cover.width ∧ IntegerText.Renders cover.height := by
      refine renders_of_readCovers ?_ isCovers
      cases found : Json.Members.get? members "covers" with
      | none => exact .null
      | some pictures => exact within.member found
    have lasting := renders_of_readInteger (within.member isLength) isDuration
    refine ⟨List.forall_mem_cons.2 ⟨lasting, fun number member => ?_⟩, ?_⟩
    · obtain ⟨cover, isCover, own⟩ := List.mem_flatMap.1 member
      obtain ⟨width, height⟩ := pictured cover isCover
      rcases List.mem_pair.1 own with rfl | rfl
      · exact width
      · exact height
    · exact List.forall_mem_singleton.2 (inRange_of_readTrackId identified)
  | _ => cases read

/-- A field that is read from a document can be written, whatever its kind. -/
theorem sound_of_read {kind : FieldKind} {name : String} {field : FieldValue}
    (within : value.WithinLimits) (read : kind.read name value = .ok field) : field.Sound := by
  cases kind with
  | trackId =>
    obtain ⟨id, isRead, rfl⟩ := map_eq_ok_iff.1 read
    exact ⟨List.forall_mem_nil _, List.forall_mem_singleton.2 (inRange_of_readTrackId isRead)⟩
  | integer =>
    obtain ⟨number, isRead, rfl⟩ := map_eq_ok_iff.1 read
    exact ⟨List.forall_mem_singleton.2 (renders_of_readInteger within isRead),
      List.forall_mem_nil _⟩
  | boolean =>
    obtain ⟨flag, -, rfl⟩ := map_eq_ok_iff.1 read
    exact ⟨List.forall_mem_nil _, List.forall_mem_nil _⟩
  | text =>
    cases read
    exact ⟨List.forall_mem_nil _, List.forall_mem_nil _⟩
  | audioItem =>
    obtain ⟨item, isRead, rfl⟩ := map_eq_ok_iff.1 read
    exact sound_of_readAudioItem within isRead

theorem sound_of_ofMembers {event : Event} (within : (Json.object members).WithinLimits)
    (decoded : ofMembers members = .ok event) : ∀ field ∈ event.values, field.Sound := by
  obtain ⟨variant, -, read⟩ := ofMembers_eq_ok_iff.1 decoded
  intro field member
  obtain ⟨entry, -, isField⟩ := exists_of_readFields read field member
  obtain ⟨given, isGiven, isRead⟩ := bind_eq_ok_iff.1 isField
  exact sound_of_read (within.member (member_eq_ok_iff.1 isGiven)) isRead

end Reading

/-! ## What variables hold -/

section Variables

variable {event : Event} {name text : String}

theorem mem_numbers_iff {entry : String × Int} :
    entry ∈ event.numbers ↔ ∃ (index : Nat) (names : List String) (field : FieldValue),
      event.variant.keys[index]? = some names ∧ event.values[index]? = some field ∧
      entry ∈ field.numbers names := by
  rw [numbers, List.mem_flatten]
  constructor
  · rintro ⟨written, isWritten, own⟩
    obtain ⟨index, place⟩ := List.mem_iff_getElem?.1 isWritten
    obtain ⟨names, field, isNames, isField, rfl⟩ := List.getElem?_zipWith_eq_some.1 place
    exact ⟨index, names, field, isNames, isField, own⟩
  · rintro ⟨index, names, field, isNames, isField, own⟩
    have place : (List.zipWith FieldValue.numbers event.variant.keys event.values)[index]? =
        some (field.numbers names) :=
      List.getElem?_zipWith_eq_some.2 ⟨names, field, isNames, isField, rfl⟩
    exact ⟨field.numbers names, List.mem_of_getElem? place, own⟩

/-- Every number that is written is one that the event holds. -/
theorem mem_integers_of_mem_numbers {entry : String × Int} (member : entry ∈ event.numbers) :
    entry.2 ∈ event.integers := by
  obtain ⟨index, names, field, -, isField, own⟩ := mem_numbers_iff.1 member
  refine List.mem_flatMap.2 ⟨field, List.mem_of_getElem? isField, ?_⟩
  cases field with
  | integer number =>
    obtain ⟨_, -, rfl⟩ := List.mem_map.1 own
    exact List.mem_cons_self
  | audioItem item =>
    obtain rfl := List.mem_singleton.1 own
    exact List.mem_cons_self
  | _ => cases own

/-- Every number is written to its variable. -/
theorem get?_of_mem_numbers {number : Int} (member : (name, number) ∈ event.numbers) :
    event.environment.get? name = some (IntegerText.render number) := by
  obtain ⟨index, names, field, isNames, isField, own⟩ := mem_numbers_iff.1 member
  have suits := Variant.suits_keys (kinds_of_values isField) isNames
  cases field with
  | integer number =>
    obtain ⟨_, isName, same⟩ := List.mem_map.1 own
    cases same
    exact event.get?_environment isNames isField isName
  | audioItem item =>
    cases List.mem_singleton.1 own
    obtain rfl : names = _ := suits
    exact event.get?_environment isNames isField (by simp)
  | _ => cases own

/-- A variable for a number is set to one of the numbers that are written to it. -/
theorem exists_number (set : event.environment.get? name = some text)
    (numeric : name ∈ numericVariables) :
    ∃ number, (name, number) ∈ event.numbers ∧ text = IntegerText.render number := by
  have apart : ∀ other ∈ numericVariables, other ≠ "PLAYER_EVENT" ∧
      (other ∈ FieldKind.audioItem.variables → other = "TRACK_DURATION") ∧
      ∀ kind ∈ [FieldKind.trackId, .boolean, .text], other ∉ kind.variables := by
    decide
  obtain ⟨notToken, inItem, foreign⟩ := apart name numeric
  obtain ⟨index, names, field, isNames, isField, own, given, suits⟩ :=
    event.exists_field set notToken
  have known := suits.mem_variables own
  cases field with
  | integer number =>
    exact ⟨number, mem_numbers_iff.2 ⟨index, names, _, isNames, isField,
      List.mem_map.2 ⟨name, own, rfl⟩⟩, (Option.some.inj given).symm⟩
  | audioItem item =>
    obtain rfl := inItem known
    exact ⟨item.durationMs, mem_numbers_iff.2 ⟨index, names, _, isNames, isField,
      List.mem_singleton.2 rfl⟩, (Option.some.inj given).symm⟩
  | trackId | boolean | text => exact absurd known (foreign _ (by simp [FieldValue.kind]))

/-- A variable for a boolean is set to the word for a boolean of the event. -/
theorem exists_flag (set : event.environment.get? name = some text)
    (flag : name ∈ flagVariables) :
    ∃ value, .boolean value ∈ event.values ∧ text = FieldValue.flagWord name value := by
  have apart : ∀ other ∈ flagVariables, other ≠ "PLAYER_EVENT" ∧
      ∀ kind ∈ [FieldKind.trackId, .integer, .text, .audioItem], other ∉ kind.variables := by
    decide
  obtain ⟨notToken, foreign⟩ := apart name flag
  obtain ⟨index, names, field, -, isField, own, given, suits⟩ := event.exists_field set notToken
  have known := suits.mem_variables own
  cases field with
  | boolean value =>
    exact ⟨value, List.mem_of_getElem? isField, (Option.some.inj given).symm⟩
  | trackId | integer | text | audioItem =>
    exact absurd known (foreign _ (by simp [FieldValue.kind]))

/-- The variable for an identifier has its text form, or is not set. -/
theorem get?_of_mem_trackIds {id : TrackId} (member : id ∈ event.trackIds) :
    event.environment.get? "TRACK_ID" = id.format? := by
  obtain ⟨field, isField, own⟩ := List.mem_flatMap.1 member
  obtain ⟨index, names, isNames, place, suits⟩ := exists_names isField
  cases field with
  | trackId given =>
    obtain rfl : names = _ := suits
    obtain rfl := List.mem_singleton.1 own
    exact event.get?_environment isNames place List.mem_cons_self
  | audioItem item =>
    obtain rfl : names = _ := suits
    obtain rfl := List.mem_singleton.1 own
    exact event.get?_environment isNames place List.mem_cons_self
  | _ => cases own

/-- An identifier in range is read back from its variable. -/
theorem exists_form {id : TrackId} (member : id ∈ event.trackIds)
    (inRange : 0 ≤ id.raw ∧ id.raw < 2 ^ 128) :
    ∃ form, event.environment.get? "TRACK_ID" = some form ∧ TrackId.parse form = .ok id := by
  obtain ⟨text, form, parsed⟩ := TrackId.exists_format? inRange
  exact ⟨text, (get?_of_mem_trackIds member).trans form, parsed⟩

/-- Only the kinds that hold an identifier set its variable. -/
theorem mem_kinds_of_trackId (set : event.environment.get? "TRACK_ID" = some text) :
    .trackId ∈ event.variant.kinds ∨ .audioItem ∈ event.variant.kinds := by
  obtain ⟨index, names, field, -, isField, own, -, suits⟩ := event.exists_field set (by decide)
  have isKind := List.mem_of_getElem? (kinds_of_values isField)
  have foreign : ∀ kind ∈ [FieldKind.integer, .boolean, .text], "TRACK_ID" ∉ kind.variables := by
    decide
  have known := suits.mem_variables own
  cases field with
  | trackId id => exact .inl isKind
  | audioItem item => exact .inr isKind
  | integer | boolean | text => exact absurd known (foreign _ (by simp [FieldValue.kind]))

/-- An event of these kinds holds an identifier. -/
theorem exists_trackId (holds : .trackId ∈ event.variant.kinds ∨ .audioItem ∈ event.variant.kinds) :
    ∃ id, id ∈ event.trackIds := by
  rw [← kinds_values] at holds
  rcases holds with isKind | isKind
  all_goals
    obtain ⟨field, isField, kind⟩ := List.mem_map.1 isKind
    cases field <;> cases kind
    exact ⟨_, List.mem_flatMap.2 ⟨_, isField, List.mem_cons_self⟩⟩

end Variables

/-- The variables of an event are there, and each has a form that a script can rely on. -/
structure WellFormed (event : Event) : Prop where
  /-- No integer is too long to be written, be it written or not. -/
  integers : ∀ number ∈ event.integers, IntegerText.Renders number
  trackIds : ∀ id ∈ event.trackIds, 0 ≤ id.raw ∧ id.raw < 2 ^ 128
  written : event.environment? = some event.environment
  identified : (∃ form, event.environment.get? "TRACK_ID" = some form) ↔
    .trackId ∈ event.variant.kinds ∨ .audioItem ∈ event.variant.kinds
  parsed : ∀ id ∈ event.trackIds, ∃ form,
    event.environment.get? "TRACK_ID" = some form ∧ TrackId.parse form = .ok id
  numbers : ∀ entry ∈ event.numbers,
    event.environment.get? entry.1 = some (IntegerText.render entry.2)
  /-- Exactly a numeral of few enough digits, for one of the event's integers. -/
  numeric : ∀ name ∈ numericVariables, ∀ text, event.environment.get? name = some text →
    ∃ number negative digits, (name, number) ∈ event.numbers ∧
      IntegerText.IsDecimal negative digits text number ∧
      digits.length ≤ IntegerText.digitLimit
  flags : ∀ name ∈ ["SHUFFLE", "AUTOPLAY", "FILTEREXPLICIT"], ∀ text,
    event.environment.get? name = some text →
    ∃ value, .boolean value ∈ event.values ∧ text = if value then "true" else "false"
  repeats : ∀ text, event.environment.get? "REPEAT" = some text →
    ∃ value, .boolean value ∈ event.values ∧ text = if value then "all" else "none"

end Event

/-- Every event that is read from a document is well formed. -/
theorem decoded_well_formed {document : String} {members : Json.Members} {event : Event}
    (object : Json.read document = .ok (.object members))
    (decoded : Event.ofMembers members = .ok event) : event.WellFormed := by
  have sound := Event.sound_of_ofMembers (Json.withinLimits_of_read object) decoded
  have integers : ∀ number ∈ event.integers, IntegerText.Renders number := by
    intro number member
    obtain ⟨field, isField, own⟩ := List.mem_flatMap.1 member
    exact (sound field isField).integers number own
  have trackIds : ∀ id ∈ event.trackIds, 0 ≤ id.raw ∧ id.raw < 2 ^ 128 := by
    intro id member
    obtain ⟨field, isField, own⟩ := List.mem_flatMap.1 member
    exact (sound field isField).trackIds id own
  have renders : event.Renders := fun entry member =>
    integers entry.2 (Event.mem_integers_of_mem_numbers member)
  have parsed : ∀ id ∈ event.trackIds, ∃ form,
      event.environment.get? "TRACK_ID" = some form ∧ TrackId.parse form = .ok id :=
    fun id member => Event.exists_form member (trackIds id member)
  refine ⟨integers, trackIds, if_pos renders, ⟨?_, ?_⟩, parsed,
    fun entry member => Event.get?_of_mem_numbers member, ?_, ?_, ?_⟩
  · exact fun ⟨_, set⟩ => Event.mem_kinds_of_trackId set
  · intro holds
    obtain ⟨id, member⟩ := Event.exists_trackId holds
    obtain ⟨form, set, -⟩ := parsed id member
    exact ⟨form, set⟩
  · intro name numeric text set
    obtain ⟨number, member, rfl⟩ := Event.exists_number set numeric
    obtain ⟨negative, digits, decimal, few⟩ := IntegerText.exists_isDecimal number
    exact ⟨number, negative, digits, member, decimal, few.2 (renders _ member)⟩
  · intro name flag text set
    have known : ∀ other ∈ ["SHUFFLE", "AUTOPLAY", "FILTEREXPLICIT"],
        other ∈ flagVariables ∧ other ≠ "REPEAT" := by
      decide
    obtain ⟨isFlag, notRepeat⟩ := known name flag
    obtain ⟨value, isValue, word⟩ := Event.exists_flag set isFlag
    exact ⟨value, isValue, by rw [word, FieldValue.flagWord, if_neg notRepeat, booleanWord]⟩
  · intro text set
    obtain ⟨value, isValue, word⟩ := Event.exists_flag set (by decide)
    exact ⟨value, isValue, by rw [word, FieldValue.flagWord, if_pos rfl]⟩

/-- The event on a line is that of the object that is written there. -/
theorem readLine_eq_ok_iff {line : String} {event : Event} :
    Stream.readLine line = .ok event ↔ ∃ members,
      Json.read line = .ok (.object members) ∧ Event.ofMembers members = .ok event := by
  unfold Stream.readLine
  cases read : Json.read line with
  | error fault => simp
  | ok value => cases value <;> simp [mapError_eq_ok_iff]

/-- An object whose identifier is a list of digits, most of them empty, and whose integers are a
double and a text. -/
def roundaboutLine : String :=
  "\x7b\"event\":\"Seeked\",\"play_request_id\":-2.9,\"position_ms\":\"1_0\",\"track_id\":[" ++
    "\"\",\"\",\"\",\"\",\"\",\"\",\"\",\"\",\"\",\"\",\"\"," ++
    "\"\",\"\",\"\",\"\",\"\",\"\",\"\",\"\",\"\",\"1\",\"Z\"]\x7d"

/-- Whatever the values are given as, the event that they come to is well formed. -/
theorem roundabout_well_formed : ∃ members event,
    Json.read roundaboutLine = .ok (.object members) ∧ Event.ofMembers members = .ok event ∧
      event = .seeked ⟨123⟩ (-2) 10 ∧ event.WellFormed := by
  have isSeeked : (Stream.readLine roundaboutLine).toOption = some (.seeked ⟨123⟩ (-2) 10) := by
    decide +kernel
  cases line : Stream.readLine roundaboutLine with
  | error fault =>
    rw [line] at isSeeked
    cases isSeeked
  | ok event =>
    obtain ⟨members, object, decoded⟩ := readLine_eq_ok_iff.1 line
    rw [line] at isSeeked
    exact ⟨members, event, object, decoded, Option.some.inj isSeeked,
      decoded_well_formed object decoded⟩

end EventHooks
