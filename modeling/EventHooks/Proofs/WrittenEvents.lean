import EventHooks.Proofs.DecodedEvents
import EventHooks.Proofs.EventGrammar
import EventHooks.Proofs.SpelledIds

/-!
# Events as objects

An event is written as an object under the names of its fields: an identifier as its text form, an
item and its pictures as objects, and each integer either as such or as its decimal text. Whatever
is chosen for each integer, the object reads back as the event (`written_events_read_back`).
-/
namespace EventHooks

/-! ## Writing -/

/-- Which integers are written as texts, by the place of their picture, if they are of one, and by
the name of their member. -/
abbrev TextChoice := Option Nat → String → Bool

/-- The text form of an identifier, or null if it has none. -/
def TrackId.toJson (id : TrackId) : Json :=
  match id.format? with
  | some form => .text form
  | none => .null

/-- An integer as such or as its decimal text. -/
def integerJson (asText : Bool) (number : Int) : Json :=
  if asText then .text (IntegerText.render number) else .integer number

/-- The members of a picture. -/
def Cover.toMembers (asText : String → Bool) (cover : Cover) : Json.Members :=
  [("url", .text cover.url), ("width", integerJson (asText "width") cover.width),
    ("height", integerJson (asText "height") cover.height)]

/-- The members of an audio item. -/
def AudioItem.toMembers (asText : TextChoice) (item : AudioItem) : Json.Members :=
  [("track_id", item.trackId.toJson), ("name", .text item.name),
    ("duration_ms", integerJson (asText none "duration_ms") item.durationMs),
    ("covers", .array ((item.covers.mapIdx fun place cover =>
      cover.toMembers (asText (some place))).map .object))]

/-- The value of the field of a name. -/
def FieldValue.toJson (asText : TextChoice) (name : String) : FieldValue → Json
  | .trackId id => id.toJson
  | .integer number => integerJson (asText none name) number
  | .boolean value => .bool value
  | .text value => .text value
  | .audioItem item => .object (item.toMembers asText)

/-- The object of an event. -/
def Event.toMembers (asText : TextChoice) (event : Event) : Json.Members :=
  ("event", .text event.variant.name) ::
    event.fields.map fun field => (field.1, field.2.toJson asText field.1)

/-! ## Values -/

theorem TrackId.readTrackId_toJson {id : TrackId} (inRange : 0 ≤ id.raw ∧ id.raw < 2 ^ 128) :
    Event.readTrackId id.toJson = .ok id := by
  obtain ⟨form, formed, parsed⟩ := exists_format? inRange
  rw [toJson, formed]
  exact Event.readTrackId_text_iff.2 parsed

theorem isInteger_integerJson {number : Int} (renders : IntegerText.Renders number)
    (asText : Bool) : (integerJson asText number).IsInteger number := by
  cases asText with
  | false => exact .integer number
  | true => exact .text (IntegerText.denotes_render renders)

theorem Cover.gives_toMembers {cover : Cover} (width : IntegerText.Renders cover.width)
    (height : IntegerText.Renders cover.height) (asText : String → Bool) :
    GivesCover (cover.toMembers asText) cover where
  url := ⟨_, rfl, rfl⟩
  width := ⟨_, rfl, isInteger_integerJson width _⟩
  height := ⟨_, rfl, isInteger_integerJson height _⟩

theorem AudioItem.gives_toMembers {item : AudioItem} (sound : (FieldValue.audioItem item).Sound)
    (asText : TextChoice) : GivesItem (item.toMembers asText) item := by
  obtain ⟨duration, pictures⟩ := List.forall_mem_cons.1 sound.integers
  have inRange := sound.trackIds item.trackId List.mem_cons_self
  refine ⟨⟨_, rfl, TrackId.readTrackId_toJson inRange⟩, ⟨_, rfl, rfl⟩,
    ⟨_, rfl, isInteger_integerJson duration _⟩, .list ?_⟩
  refine List.forall₂_iff_get.2 ⟨List.length_mapIdx, fun place _ inside => ?_⟩
  have own : ∀ number ∈ [item.covers[place].width, item.covers[place].height],
      IntegerText.Renders number :=
    fun number member => pictures number
      (List.mem_flatMap.2 ⟨_, List.getElem_mem inside, member⟩)
  simp only [List.get_eq_getElem, List.getElem_mapIdx]
  exact Cover.gives_toMembers (own _ (by simp)) (own _ (by simp)) _

theorem FieldValue.gives_toJson {value : FieldValue} (sound : value.Sound) (asText : TextChoice)
    (name : String) : GivesField value.kind (value.toJson asText name) value := by
  cases value with
  | trackId id =>
    exact .trackId (TrackId.readTrackId_toJson (sound.trackIds id List.mem_cons_self))
  | integer number =>
    exact .integer (isInteger_integerJson (sound.integers number List.mem_cons_self) _)
  | boolean value => exact .boolean value
  | text value => exact .text (.text value)
  | audioItem item => exact .audioItem (item.gives_toMembers sound asText)

/-! ## Events -/

namespace Event

variable {event : Event}

theorem sound_of_mem_values (inRange : ∀ id ∈ event.trackIds, 0 ≤ id.raw ∧ id.raw < 2 ^ 128)
    (renders : ∀ number ∈ event.integers, IntegerText.Renders number) :
    ∀ value ∈ event.values, value.Sound :=
  fun value member => ⟨fun number own => renders number (List.mem_flatMap.2 ⟨value, member, own⟩),
    fun id own => inRange id (List.mem_flatMap.2 ⟨value, member, own⟩)⟩

/-- Each member of the object of an event is found under its name. -/
theorem get?_toMembers (asText : TextChoice) {field : String × FieldValue}
    (member : field ∈ event.fields) :
    (event.toMembers asText).get? field.1 = some (field.2.toJson asText field.1) := by
  have distinct : ∀ variant ∈ Variant.all, ("event" :: variant.fields).Nodup := by decide
  have names : (event.toMembers asText).map (·.1) = "event" :: event.variant.fields := by
    rw [toMembers, List.map_cons, List.map_map]
    exact congrArg _ (List.map_fst_zip event.length_values.ge)
  have isEntry : (field.1, field.2.toJson asText field.1) ∈ event.toMembers asText :=
    List.mem_cons_of_mem _ (List.mem_map.2 ⟨field, member, rfl⟩)
  refine Option.map_eq_some_iff.2 ⟨_, find?_of_mem ?_ isEntry, rfl⟩
  exact names ▸ distinct _ event.variant.mem_all

/-- The object of an event gives it. -/
theorem gives_toMembers (sound : ∀ value ∈ event.values, value.Sound) (asText : TextChoice) :
    GivesEvent (event.toMembers asText) event where
  named := rfl
  fields := by
    -- The kinds in the table are those of the values.
    rw [Variant.table, ← kinds_values]
    refine List.forall₂_iff_get.2 ⟨?_, fun index inTable inValues => ?_⟩
    · rw [List.length_zip, List.length_map, ← event.length_values, Nat.min_self]
    · have inFields : index < event.variant.fields.length := event.length_values ▸ inValues
      have isField : (event.variant.fields[index], event.values[index]) ∈ event.fields := by
        have inZip : index < event.fields.length :=
          List.length_zip ▸ lt_min inFields inValues
        exact List.getElem_zip (h := inZip) ▸ List.getElem_mem inZip
      simp only [List.get_eq_getElem, List.getElem_zip, List.getElem_map]
      exact ⟨_, get?_toMembers asText isField,
        FieldValue.gives_toJson (sound _ (List.getElem_mem inValues)) asText _⟩

end Event

/-- Whatever integers are written as texts, every object that agrees with the one of an event reads
back as this event, and so has its variables. -/
theorem written_events_read_back (event : Event) (asText : TextChoice) (members : Json.Members)
    (inRange : ∀ id ∈ event.trackIds, 0 ≤ id.raw ∧ id.raw < 2 ^ 128)
    (renders : ∀ number ∈ event.integers, IntegerText.Renders number)
    (agree : Agree (event.toMembers asText) members) :
    ∃ decoded, Event.ofMembers members = .ok decoded ∧ decoded = event ∧
      decoded.environment? = some event.environment := by
  have sound := Event.sound_of_mem_values inRange renders
  have written : event.Renders := fun entry member =>
    renders entry.2 (Event.mem_integers_of_mem_numbers member)
  refine ⟨event, ?_, rfl, if_pos written⟩
  rw [← agree.ofMembers_eq]
  exact Event.ofMembers_eq_ok_iff_gives.2 (Event.gives_toMembers sound asText)

/-- A change to an item with the last identifier and two pictures. -/
def picturedChange : Event :=
  .trackChanged ⟨⟨2 ^ 128 - 1⟩, "a\nb", -7, [⟨"u", 3, -2⟩, ⟨"v", 0, 10⟩]⟩

/-- The length and the integers of the second picture as texts. -/
def someTexts : TextChoice :=
  fun place name => place = some 1 || name = "duration_ms"

/-- The object holds integers of both forms, and reads back as the change. -/
theorem pictured_change_reads_back :
    picturedChange.toMembers someTexts = [("event", .text "TrackChanged"),
      ("audio_item", .object [("track_id", .text "7N42dgm5tFLK9N8MT7fHC7"), ("name", .text "a\nb"),
        ("duration_ms", .text "-7"),
        ("covers", .array [
          .object [("url", .text "u"), ("width", .integer 3), ("height", .integer (-2))],
          .object [("url", .text "v"), ("width", .text "0"), ("height", .text "10")]])])] ∧
    ∃ decoded, Event.ofMembers (picturedChange.toMembers someTexts) = .ok decoded ∧
      decoded = picturedChange ∧ decoded.environment? = some picturedChange.environment :=
  ⟨rfl, written_events_read_back picturedChange someTexts _ (by decide)
    (by unfold IntegerText.Renders; decide +kernel) ⟨rfl, fun _ _ _ _ => .same _ _⟩⟩

end EventHooks
