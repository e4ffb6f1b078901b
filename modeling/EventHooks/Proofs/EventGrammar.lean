import EventHooks.Proofs.FieldReading
import EventHooks.Proofs.IntegerSyntax

/-!
# The grammar of event objects

Which objects are events, and which event each of them is, described without the readers: the name
of a variant under `event`, and for each field of the variant a member that is valid for its kind.
Exactly these objects are read, and objects that agree on what the grammar mentions are read alike,
whatever other members they have (`grammar_exact`).
-/
namespace EventHooks

namespace Json

/-- Exactly the values of an integer: an integer, a boolean, the part of a finite double before its
point, or an integer written as text. -/
inductive IsInteger : Json → Int → Prop
  | integer (number : Int) : IsInteger (.integer number) number
  | no : IsInteger (.bool false) 0
  | yes : IsInteger (.bool true) 1
  | float {negative : Bool} {significand magnitude : Nat} {exponent : Int}
    (least : magnitude * 2 ^ (-exponent).toNat ≤ significand * 2 ^ exponent.toNat)
    (most : significand * 2 ^ exponent.toNat < (magnitude + 1) * 2 ^ (-exponent).toNat) :
    IsInteger (.float (.finite negative significand exponent))
      (IntegerText.signed negative magnitude)
  | text {given : String} {number : Int} (denotes : IntegerText.Denotes given number) :
    IsInteger (.text given) number

/-- Exactly the values that count as absent: null, false, the zeros, and what is empty. -/
inductive IsAbsent : Json → Prop
  | null : IsAbsent .null
  | no : IsAbsent (.bool false)
  | integer : IsAbsent (.integer 0)
  | float (negative : Bool) (exponent : Int) : IsAbsent (.float (.finite negative 0 exponent))
  | text : IsAbsent (.text "")
  | array : IsAbsent (.array [])
  | object : IsAbsent (.object [])

end Json

/-! ## What objects give -/

/-- An object gives a picture by an address of any kind and two integers. -/
structure GivesCover (members : Json.Members) (cover : Cover) : Prop where
  url : ∃ given, members.get? "url" = some given ∧ given.asText = cover.url
  width : ∃ given, members.get? "width" = some given ∧ given.IsInteger cover.width
  height : ∃ given, members.get? "height" = some given ∧ given.IsInteger cover.height

/-- A member that may be missing gives pictures: none if it is missing or counts as absent, and
otherwise one for each item of a list of objects, in order. -/
inductive GivesCovers : Option Json → List Cover → Prop
  | missing : GivesCovers none []
  | absent {given : Json} (absent : given.IsAbsent) : GivesCovers (some given) []
  | list {items : List Json.Members} {covers : List Cover}
    (each : List.Forall₂ GivesCover items covers) :
    GivesCovers (some (.array (items.map .object))) covers

/-- An object gives an audio item. -/
structure GivesItem (members : Json.Members) (item : AudioItem) : Prop where
  trackId : ∃ given, members.get? "track_id" = some given ∧
    Event.readTrackId given = .ok item.trackId
  name : ∃ given, members.get? "name" = some given ∧ given.asText = item.name
  durationMs : ∃ given, members.get? "duration_ms" = some given ∧ given.IsInteger item.durationMs
  covers : GivesCovers (members.get? "covers") item.covers

/-- A value gives a field of a kind. Any value gives a text. -/
inductive GivesField : FieldKind → Json → FieldValue → Prop
  | trackId {given : Json} {id : TrackId} (identified : Event.readTrackId given = .ok id) :
    GivesField .trackId given (.trackId id)
  | integer {given : Json} {number : Int} (isInteger : given.IsInteger number) :
    GivesField .integer given (.integer number)
  | boolean (value : Bool) : GivesField .boolean (.bool value) (.boolean value)
  | text (given : Json) : GivesField .text given (.text given.asText)
  | audioItem {members : Json.Members} {item : AudioItem} (gives : GivesItem members item) :
    GivesField .audioItem (.object members) (.audioItem item)

/-- An object gives an event by the name of its variant and by a member for each of its fields. -/
structure GivesEvent (members : Json.Members) (event : Event) : Prop where
  named : members.get? "event" = some (.text event.variant.name)
  fields : List.Forall₂ (fun field value => ∃ given, members.get? field.1 = some given ∧
    GivesField field.2 given value) event.variant.table event.values

/-- An object names a variant and has a valid member for each field of it. -/
def IsValid (members : Json.Members) : Prop :=
  ∃ variant : Variant, members.get? "event" = some (.text variant.name) ∧
    ∀ field ∈ variant.table, ∃ given value, members.get? field.1 = some given ∧
      GivesField field.2 given value

/-! ## Where objects agree -/

/-- The same value, or two objects that give a picture by the same members. -/
inductive AgreeOnCover : Json → Json → Prop
  | same (given : Json) : AgreeOnCover given given
  | objects {first second : Json.Members}
    (agree : ∀ name ∈ ["url", "width", "height"], first.get? name = second.get? name) :
    AgreeOnCover (.object first) (.object second)

/-- The same value or none, or two lists of pictures that agree one by one. -/
inductive AgreeOnCovers : Option Json → Option Json → Prop
  | same (given : Option Json) : AgreeOnCovers given given
  | lists {first second : List Json} (each : List.Forall₂ AgreeOnCover first second) :
    AgreeOnCovers (some (.array first)) (some (.array second))

/-- The same value, or two objects that agree on the members of an audio item. -/
inductive AgreeOnItem : Json → Json → Prop
  | same (given : Json) : AgreeOnItem given given
  | objects {first second : Json.Members}
    (agree : ∀ name ∈ ["track_id", "name", "duration_ms"], first.get? name = second.get? name)
    (covers : AgreeOnCovers (first.get? "covers") (second.get? "covers")) :
    AgreeOnItem (.object first) (.object second)

/-- The same value or none, or two audio items that agree. -/
inductive AgreeOnField : FieldKind → Option Json → Option Json → Prop
  | same (kind : FieldKind) (given : Option Json) : AgreeOnField kind given given
  | audioItem {first second : Json} (agree : AgreeOnItem first second) :
    AgreeOnField .audioItem (some first) (some second)

/-- Objects that name the same, and agree on the fields of a variant that they name. -/
structure Agree (first second : Json.Members) : Prop where
  named : first.get? "event" = second.get? "event"
  fields : ∀ variant : Variant, first.get? "event" = some (.text variant.name) →
    ∀ field ∈ variant.table, AgreeOnField field.2 (first.get? field.1) (second.get? field.1)

/-! ## Values -/

theorem Binary64.truncate_eq_ok_iff {negative : Bool} {significand : Nat} {exponent number : Int} :
    truncate (.finite negative significand exponent) = .ok number ↔
      ∃ magnitude : Nat, magnitude * 2 ^ (-exponent).toNat ≤ significand * 2 ^ exponent.toNat ∧
        significand * 2 ^ exponent.toNat < (magnitude + 1) * 2 ^ (-exponent).toNat ∧
        number = IntegerText.signed negative magnitude := by
  have positive : 0 < 2 ^ (-exponent).toNat := Nat.two_pow_pos _
  simp only [truncate, Nat.pow_eq, Except.ok.injEq]
  constructor
  · rintro rfl
    refine ⟨_, Nat.div_mul_le_self _ _, ?_, rfl⟩
    exact Nat.lt_mul_of_div_lt (Nat.lt_succ_self _) positive
  · rintro ⟨magnitude, least, most, rfl⟩
    rw [Nat.div_eq_of_lt_le least most]

theorem Json.isEmpty_iff {value : Json} : value.isEmpty = true ↔ value.IsAbsent := by
  constructor
  · intro empty
    cases value with
    | null => exact .null
    | bool given =>
      cases given with
      | false => exact .no
      | true => cases empty
    | integer given =>
      obtain rfl : given = 0 := by simpa [isEmpty] using empty
      exact .integer
    | float double =>
      simp only [isEmpty, Binary64.isZero] at empty
      split at empty
      · exact .float _ _
      · cases empty
    | text given =>
      obtain rfl : given = "" := by simpa [isEmpty] using empty
      exact .text
    | array items =>
      obtain rfl : items = [] := by simpa [isEmpty] using empty
      exact .array
    | object members =>
      obtain rfl : members = [] := by simpa [isEmpty] using empty
      exact .object
  · rintro (_ | _ | _ | _ | _ | _ | _) <;> rfl

/-! ## Readers against the grammar -/

namespace Event

theorem readInteger_eq_ok_iff {value : Json} {number : Int} :
    readInteger value = .ok number ↔ value.IsInteger number := by
  constructor
  · intro read
    cases value with
    | integer given =>
      cases read
      exact .integer number
    | bool given =>
      cases read
      cases given
      · exact .no
      · exact .yes
    | float double =>
      cases double with
      | nan | infinite negative => cases read
      | finite negative significand exponent =>
        rw [readInteger, mapError_eq_ok_iff, Binary64.truncate_eq_ok_iff] at read
        obtain ⟨magnitude, least, most, rfl⟩ := read
        exact .float least most
    | text given => exact .text (IntegerText.read_eq_ok_iff.1 (mapError_eq_ok_iff.1 read))
    | null | array items | object members => cases read
  · intro isInteger
    cases isInteger with
    | integer | no | yes => rfl
    | float least most =>
      rw [readInteger, Binary64.truncate_eq_ok_iff.2 ⟨_, least, most, rfl⟩]
      rfl
    | text denotes => exact mapError_eq_ok_iff.2 (IntegerText.read_eq_ok_iff.2 denotes)

section Readers

variable {members : Json.Members} {value : Json}

theorem readCover_eq_ok_iff {cover : Cover} :
    readCover members = .ok cover ↔ GivesCover members cover := by
  simp only [readCover, bind_eq_ok_iff, member_eq_ok_iff, readInteger_eq_ok_iff]
  constructor
  · rintro ⟨url, hasUrl, given, hasWidth, width, isWidth, other, hasHeight, height, isHeight, same⟩
    cases same
    exact ⟨⟨url, hasUrl, rfl⟩, ⟨given, hasWidth, isWidth⟩, ⟨other, hasHeight, isHeight⟩⟩
  · rintro ⟨⟨url, hasUrl, isUrl⟩, ⟨given, hasWidth, isWidth⟩, ⟨other, hasHeight, isHeight⟩⟩
    exact ⟨url, hasUrl, given, hasWidth, _, isWidth, other, hasHeight, _, isHeight,
      by rw [isUrl]; rfl⟩

theorem readCovers_eq_ok_iff {given : Option Json} {covers : List Cover} :
    readCovers (given.getD .null) = .ok covers ↔ GivesCovers given covers := by
  constructor
  · intro read
    cases given with
    | none =>
      cases read
      exact .missing
    | some given =>
      rw [Option.getD_some] at read
      unfold readCovers at read
      split_ifs at read with empty
      · cases read
        exact .absent (Json.isEmpty_iff.1 empty)
      · split at read
        · split at read
          · rename_i objects isObjects
            obtain rfl := objects?_eq_some_iff.1 isObjects
            refine .list ((mapM_eq_ok_iff.1 read).imp fun _ _ => readCover_eq_ok_iff.1)
          · cases read
        · cases read
  · intro gives
    cases gives with
    | missing => rfl
    | absent absent =>
      unfold readCovers
      rw [Option.getD_some, if_pos (Json.isEmpty_iff.2 absent)]
    | @list items covers each =>
      have taken : items.mapM readCover = .ok covers :=
        mapM_eq_ok_iff.2 (each.imp fun _ _ => readCover_eq_ok_iff.2)
      rw [Option.getD_some, readCovers]
      split_ifs with empty
      · cases items with
        | nil => exact taken
        | cons => cases empty
      · simp only [objects?_eq_some_iff.2 rfl, taken]

theorem readAudioItem_eq_ok_iff {item : AudioItem} :
    readAudioItem value = .ok item ↔
      ∃ members, value = .object members ∧ GivesItem members item := by
  cases value with
  | object members =>
    simp only [readAudioItem, bind_eq_ok_iff, member_eq_ok_iff, readCovers_eq_ok_iff,
      readInteger_eq_ok_iff, Json.object.injEq, exists_eq_left']
    constructor
    · rintro ⟨covers, pictures, given, hasId, id, isId, name, hasName, length, hasLength, duration,
        isDuration, same⟩
      cases same
      exact ⟨⟨given, hasId, isId⟩, ⟨name, hasName, rfl⟩, ⟨length, hasLength, isDuration⟩, pictures⟩
    · rintro ⟨⟨given, hasId, isId⟩, ⟨name, hasName, isName⟩, ⟨length, hasLength, isDuration⟩,
        pictures⟩
      exact ⟨_, pictures, given, hasId, _, isId, name, hasName, length, hasLength, _, isDuration,
        by rw [isName]; rfl⟩
  | _ => simp [readAudioItem]

theorem read_eq_ok_iff {kind : FieldKind} {name : String} {field : FieldValue} :
    kind.read name value = .ok field ↔ GivesField kind value field := by
  constructor
  · intro read
    cases kind with
    | trackId =>
      obtain ⟨id, identified, rfl⟩ := map_eq_ok_iff.1 read
      exact .trackId identified
    | integer =>
      obtain ⟨number, isInteger, rfl⟩ := map_eq_ok_iff.1 read
      exact .integer (readInteger_eq_ok_iff.1 isInteger)
    | boolean =>
      obtain ⟨flag, isFlag, rfl⟩ := map_eq_ok_iff.1 read
      cases value <;> cases isFlag
      exact .boolean flag
    | text =>
      cases read
      exact .text value
    | audioItem =>
      obtain ⟨item, isItem, rfl⟩ := map_eq_ok_iff.1 read
      obtain ⟨members, rfl, gives⟩ := readAudioItem_eq_ok_iff.1 isItem
      exact .audioItem gives
  · intro gives
    cases gives with
    | trackId identified => exact map_eq_ok_iff.2 ⟨_, identified, rfl⟩
    | integer isInteger => exact map_eq_ok_iff.2 ⟨_, readInteger_eq_ok_iff.2 isInteger, rfl⟩
    | boolean | text => rfl
    | audioItem gives =>
      exact map_eq_ok_iff.2 ⟨_, readAudioItem_eq_ok_iff.2 ⟨_, rfl, gives⟩, rfl⟩

theorem readField_eq_ok_iff {field : String × FieldKind} {result : FieldValue} :
    readField members field = .ok result ↔
      ∃ given, members.get? field.1 = some given ∧ GivesField field.2 given result := by
  simp only [readField, bind_eq_ok_iff, member_eq_ok_iff, read_eq_ok_iff]

theorem ofName?_eq_some_iff {name : String} {variant : Variant} :
    Variant.ofName? name = some variant ↔ name = variant.name := by
  have all : ∀ variant ∈ Variant.all, Variant.ofName? variant.name = some variant := by decide
  constructor
  · intro found
    unfold Variant.ofName? at found
    have isName := List.find?_some found
    exact (beq_iff_eq.1 isName).symm
  · rintro rfl
    exact all variant variant.mem_all

theorem namedVariant_eq_ok_iff {variant : Variant} :
    namedVariant members = .ok variant ↔
      members.get? "event" = some (.text variant.name) := by
  unfold namedVariant
  cases members.get? "event" with
  | none => simp
  | some given =>
    cases given with
    | text name =>
      simp only [Option.getD_some, Option.some.injEq, Json.text.injEq, ← ofName?_eq_some_iff]
      cases Variant.ofName? name <;> simp
    | _ => simp

theorem ofMembers_eq_ok_iff_gives {event : Event} :
    ofMembers members = .ok event ↔ GivesEvent members event := by
  simp only [ofMembers_eq_ok_iff, namedVariant_eq_ok_iff, readFields_eq_ok_iff,
    readField_eq_ok_iff]
  constructor
  · rintro ⟨_, named, rfl, fields⟩
    exact ⟨named, fields⟩
  · rintro ⟨named, fields⟩
    exact ⟨_, named, rfl, fields⟩

theorem exists_ofMembers_iff :
    (∃ event, ofMembers members = .ok event) ↔ IsValid members := by
  have each (variant : Variant) : (∃ event, readFields variant members = .ok event) ↔
      ∀ field ∈ variant.table, ∃ given value, members.get? field.1 = some given ∧
        GivesField field.2 given value := by
    simp only [exists_readFields_iff, readField_eq_ok_iff]
    exact forall₂_congr fun field _ => exists_comm
  simp only [ofMembers_eq_ok_iff, namedVariant_eq_ok_iff, IsValid, ← each]
  constructor
  · rintro ⟨event, variant, named, read⟩
    exact ⟨variant, named, event, read⟩
  · rintro ⟨variant, named, event, read⟩
    exact ⟨event, variant, named, read⟩

end Readers

end Event

/-! ## Readers of what agrees -/

section Agreement

/-- The pictures of the items of a list, if all of them are objects. -/
theorem objects?_cons (given : Json) (items : List Json) :
    (Event.objects? (given :: items)).map (·.mapM Event.readCover) =
      match given with
      | .object members => ((Event.objects? items).map (·.mapM Event.readCover)).map fun covers =>
          return (← Event.readCover members) :: (← covers)
      | _ => none := by
  unfold Event.objects?
  rw [List.mapM_cons]
  cases given with
  | object members =>
    generalize List.mapM (m := Option) _ items = objects
    cases objects with
    | none => rfl
    | some objects => exact congrArg some List.mapM_cons
  | _ => rfl

theorem AgreeOnCover.objects?_eq {first second : List Json}
    (agree : List.Forall₂ AgreeOnCover first second) :
    (Event.objects? first).map (·.mapM Event.readCover) =
      (Event.objects? second).map (·.mapM Event.readCover) := by
  induction agree with
  | nil => rfl
  | cons head _ ih =>
    -- Items that agree are both objects or the same value.
    rw [objects?_cons, objects?_cons, ih]
    cases head with
    | same => rfl
    | @objects first second agree =>
      have url := agree "url" (by simp)
      have width := agree "width" (by simp)
      have height := agree "height" (by simp)
      have cover : Event.readCover first = Event.readCover second := by
        simp only [Event.readCover, Event.member, url, width, height]
      simp only [cover]

theorem AgreeOnCovers.readCovers_eq {first second : Option Json}
    (agree : AgreeOnCovers first second) :
    Event.readCovers (first.getD .null) = Event.readCovers (second.getD .null) := by
  cases agree with
  | same => rfl
  | @lists first second each =>
    have read (items : List Json) : Event.readCovers (.array items) =
        ((Event.objects? items).map (·.mapM Event.readCover)).getD (.error .coverNotObject) := by
      unfold Event.readCovers
      split_ifs with empty
      · obtain rfl : items = [] := by simpa [Json.isEmpty] using empty
        rfl
      · dsimp only
        cases Event.objects? items <;> rfl
    rw [Option.getD_some, Option.getD_some, read, read, AgreeOnCover.objects?_eq each]

theorem AgreeOnItem.readAudioItem_eq {first second : Json} (agree : AgreeOnItem first second) :
    Event.readAudioItem first = Event.readAudioItem second := by
  cases agree with
  | same => rfl
  | objects agree covers =>
    have id := agree "track_id" (by simp)
    have name := agree "name" (by simp)
    have duration := agree "duration_ms" (by simp)
    simp only [Event.readAudioItem, Event.member, covers.readCovers_eq, id, name, duration]

theorem AgreeOnField.readField_eq {first second : Json.Members} {field : String × FieldKind}
    (agree : AgreeOnField field.2 (first.get? field.1) (second.get? field.1)) :
    Event.readField first field = Event.readField second field := by
  obtain ⟨name, kind⟩ := field
  generalize isFirst : first.get? name = given at agree
  generalize isSecond : second.get? name = other at agree
  cases agree with
  | same => exact Event.readField_congr (isFirst.trans isSecond.symm)
  | audioItem agree =>
    simp only [Event.readField, Event.member, isFirst, isSecond, FieldKind.read, bind, Except.bind,
      agree.readAudioItem_eq]

theorem Agree.ofMembers_eq {first second : Json.Members} (agree : Agree first second) :
    Event.ofMembers first = Event.ofMembers second :=
  Event.ofMembers_congr agree.named fun variant named field isField =>
    (agree.fields variant (Event.namedVariant_eq_ok_iff.1 named) field isField).readField_eq

end Agreement

/-- Exactly the objects that give an event are read, each as the event that it gives; these are the
objects that name a variant and are valid for it; and objects that agree on what is read are read as
the same event or refused with the same error. -/
theorem grammar_exact (members : Json.Members) :
    (∀ event, Event.ofMembers members = .ok event ↔ GivesEvent members event) ∧
    ((∃ event, Event.ofMembers members = .ok event) ↔ IsValid members) ∧
    ∀ other, Agree members other → Event.ofMembers members = Event.ofMembers other :=
  ⟨fun _ => Event.ofMembers_eq_ok_iff_gives, Event.exists_ofMembers_iff,
    fun _ => Agree.ofMembers_eq⟩

/-- A change of track whose integers are a text, half a double and a boolean. -/
def plainChange : Json.Members :=
  [("event", .text "TrackChanged"),
    ("audio_item", .object [("track_id", .text "0000000000000000000001"), ("name", .null),
      ("duration_ms", .text " -1_0 "),
      ("covers", .array [.object [("url", .text "u"), ("width", .float (.finite true 5 (-1))),
        ("height", .bool true)]])])]

/-- The same change among other members, in another order. -/
def crowdedChange : Json.Members :=
  [("volume", .null),
    ("audio_item", .object [("duration_ms", .text " -1_0 "), ("artist", .integer 3),
      ("covers", .array [.object [("height", .bool true), ("depth", .array []), ("url", .text "u"),
        ("width", .float (.finite true 5 (-1)))]]),
      ("name", .null), ("track_id", .text "0000000000000000000001")]),
    ("track_id", .bool false), ("event", .text "TrackChanged")]

/-- Other members and their order do not count: the two changes are read as one event. -/
theorem crowded_change_is_read : Agree plainChange crowdedChange ∧
    Event.ofMembers plainChange = Event.ofMembers crowdedChange ∧
    Event.ofMembers crowdedChange =
      .ok (.trackChanged ⟨⟨1⟩, "None", -10, [⟨"u", -2, 1⟩]⟩) := by
  have agree : Agree plainChange crowdedChange := by
    refine ⟨rfl, fun variant named field isField => ?_⟩
    have isVariant : Event.namedVariant plainChange = .ok .trackChanged := rfl
    rw [Event.namedVariant_eq_ok_iff.2 named] at isVariant
    cases isVariant
    obtain rfl := List.mem_singleton.1 isField
    refine .audioItem (.objects (by simp [Json.Members.get?]) (.lists (.cons (.objects ?_) .nil)))
    simp [Json.Members.get?]
  exact ⟨agree, (grammar_exact plainChange).2.2 crowdedChange agree, rfl⟩

end EventHooks
