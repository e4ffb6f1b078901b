import EventHooks.Proofs.FieldReading
import EventHooks.Proofs.StreamReading

/-!
# Infinite numbers

An object is an event or it is invalid, unless reading it comes to an infinite number where an
integer is wanted. Such an object ends the reading of its stream, and no other one does
(`invalid_unless_infinite`).
-/
namespace EventHooks

/-- Exactly the two infinities, which a literal beyond the doubles stands for, too. -/
def Json.IsInfinite (value : Json) : Prop :=
  ∃ negative, value = .float (.infinite negative)

namespace Event

/-! ## Where an infinite number stands -/

/-- Reading a picture comes to an infinite number: its width, or its height after a width that can
be read. -/
inductive CoverInfinity (members : Json.Members) : Prop
  | width {url value : Json} (hasUrl : members.get? "url" = some url)
    (given : members.get? "width" = some value) (infinite : value.IsInfinite)
  | height {url width value : Json} {number : Int} (hasUrl : members.get? "url" = some url)
    (hasWidth : members.get? "width" = some width) (readable : readInteger width = .ok number)
    (given : members.get? "height" = some value) (infinite : value.IsInfinite)

/-- Reading an audio item comes to an infinite number: in the first of its pictures that cannot be
read, or in its duration after all that is read before. -/
inductive ItemInfinity (members : Json.Members) : Prop
  | cover {front back : List Json.Members} {cover : Json.Members}
    (listed : members.get? "covers" = some (.array ((front ++ cover :: back).map .object)))
    (readable : ∀ earlier ∈ front, ∃ picture, readCover earlier = .ok picture)
    (infinite : CoverInfinity cover)
  | duration {covers : List Cover} {id name value : Json} {trackId : TrackId}
    (pictures : readCovers ((members.get? "covers").getD .null) = .ok covers)
    (hasId : members.get? "track_id" = some id) (identified : readTrackId id = .ok trackId)
    (hasName : members.get? "name" = some name)
    (given : members.get? "duration_ms" = some value) (infinite : value.IsInfinite)

/-- Reading a value as one of a kind comes to an infinite number. -/
inductive ValueInfinity : FieldKind → Json → Prop
  | integer {value : Json} (infinite : value.IsInfinite) : ValueInfinity .integer value
  | audioItem {members : Json.Members} (inItem : ItemInfinity members) :
    ValueInfinity .audioItem (.object members)

/-- Reading an object comes to an infinite number: in the first of its variant's fields that cannot
be read. -/
inductive ObjectInfinity (members : Json.Members) : Prop
  | field {variant : Variant} {front back : List (String × FieldKind)} {name : String}
    {kind : FieldKind} {value : Json} (named : namedVariant members = .ok variant)
    (split : variant.table = front ++ (name, kind) :: back)
    (readable : ∀ earlier ∈ front, ∃ value, readField members earlier = .ok value)
    (given : members.get? name = some value) (infinite : ValueInfinity kind value)

/-! ## What the readers answer there -/

section Readers

variable {members : Json.Members} {value : Json} {name : String}

theorem member_ne_infinite : member members name ≠ .error (.noInteger .infinite) := by
  unfold member
  cases members.get? name <;> simp

theorem readInteger_infinite_iff :
    readInteger value = .error (.noInteger .infinite) ↔ value.IsInfinite := by
  cases value with
  | float double =>
    cases double <;> simp [readInteger, Binary64.truncate, Except.mapError, Json.IsInfinite]
  | text given =>
    cases read : IntegerText.read given <;>
      simp [readInteger, read, Except.mapError, Json.IsInfinite]
  | _ => simp [readInteger, Json.IsInfinite]

theorem readDigit_ne_infinite (given : Json) :
    readDigit given value ≠ .error (.noInteger .infinite) := by
  unfold readDigit
  split
  · split <;> simp
  · simp

theorem readTrackId_ne_infinite : readTrackId value ≠ .error (.noInteger .infinite) := by
  unfold readTrackId
  split
  · simp
  · split_ifs
    · split
      · rename_i number _
        cases TrackId.ofNumber value number <;> simp [Except.mapError]
      · rename_i fault failed
        intro infinite
        obtain ⟨element, -, failing⟩ := TrackId.exists_of_ofElements_eq_error failed
        cases infinite
        exact readDigit_ne_infinite value failing
    · simp

theorem readBoolean_ne_infinite : readBoolean name value ≠ .error (.noInteger .infinite) := by
  cases value <;> simp [readBoolean]

theorem readCover_infinite_iff :
    readCover members = .error (.noInteger .infinite) ↔ CoverInfinity members := by
  simp only [readCover, bind_eq_error_iff, member_ne_infinite, false_or, member_eq_ok_iff,
    readInteger_infinite_iff]
  constructor
  · rintro ⟨url, hasUrl, width, hasWidth, infinite | ⟨number, readable, height, given, rest⟩⟩
    · exact .width hasUrl hasWidth infinite
    · rcases rest with infinite | ⟨_, _, impossible⟩
      · exact .height hasUrl hasWidth readable given infinite
      · cases impossible
  · rintro (⟨hasUrl, given, infinite⟩ | ⟨hasUrl, hasWidth, readable, given, infinite⟩)
    · exact ⟨_, hasUrl, _, given, .inl infinite⟩
    · exact ⟨_, hasUrl, _, hasWidth, .inr ⟨_, readable, _, given, .inl infinite⟩⟩

theorem readCovers_infinite_iff :
    readCovers value = .error (.noInteger .infinite) ↔ ∃ front cover back,
      value = .array ((front ++ cover :: back).map .object) ∧
        (∀ earlier ∈ front, ∃ picture, readCover earlier = .ok picture) ∧ CoverInfinity cover := by
  simp only [← readCover_infinite_iff]
  unfold readCovers
  split_ifs with empty
  · simp only [false_iff]
    rintro ⟨front, cover, back, rfl, -⟩
    simp [Json.isEmpty] at empty
  · split
    · rename_i items
      cases objects : objects? items with
      | none =>
        simp only [Except.error.injEq, reduceCtorEq, false_iff]
        rintro ⟨front, cover, back, same, -⟩
        cases same
        rw [objects?_eq_some_iff.2 rfl] at objects
        cases objects
      | some covers =>
        obtain rfl := objects?_eq_some_iff.1 objects
        have distinct : Function.Injective Json.object := fun _ _ same => by cases same; rfl
        simp only [mapM_eq_error_iff, Json.array.injEq, (List.map_injective_iff.2 distinct).eq_iff]
    · rename_i other
      simp only [Except.error.injEq, reduceCtorEq, false_iff]
      rintro ⟨front, cover, back, rfl, -⟩
      exact other _ rfl

/-- The pictures of an item come to an infinite number only if they are listed. -/
theorem readItemCovers_infinite_iff :
    readCovers ((members.get? "covers").getD .null) = .error (.noInteger .infinite) ↔
      ∃ front cover back,
        members.get? "covers" = some (.array ((front ++ cover :: back).map .object)) ∧
        (∀ earlier ∈ front, ∃ picture, readCover earlier = .ok picture) ∧ CoverInfinity cover := by
  rw [readCovers_infinite_iff]
  cases given : members.get? "covers" <;> simp

theorem readAudioItem_infinite_iff :
    readAudioItem value = .error (.noInteger .infinite) ↔
      ∃ members, value = .object members ∧ ItemInfinity members := by
  cases value with
  | object members =>
    simp only [readAudioItem, bind_eq_error_iff, readItemCovers_infinite_iff, member_ne_infinite,
      false_or, member_eq_ok_iff, readTrackId_ne_infinite, readInteger_infinite_iff]
    constructor
    · rintro (⟨front, cover, back, listed, readable, infinite⟩ | ⟨covers, pictures, id, hasId,
        trackId, identified, name, hasName, value, given, rest⟩)
      · exact ⟨members, rfl, .cover listed readable infinite⟩
      · rcases rest with infinite | ⟨_, _, impossible⟩
        · exact ⟨members, rfl, .duration pictures hasId identified hasName given infinite⟩
        · cases impossible
    · rintro ⟨_, same, inItem⟩
      cases same
      rcases inItem with ⟨listed, readable, infinite⟩ |
        ⟨pictures, hasId, identified, hasName, given, infinite⟩
      · exact .inl ⟨_, _, _, listed, readable, infinite⟩
      · exact .inr ⟨_, pictures, _, hasId, _, identified, _, hasName, _, given, .inl infinite⟩
  | _ => simp [readAudioItem]

theorem read_infinite_iff {kind : FieldKind} :
    kind.read name value = .error (.noInteger .infinite) ↔ ValueInfinity kind value := by
  cases kind with
  | integer =>
    rw [FieldKind.read, map_eq_error_iff, readInteger_infinite_iff]
    refine ⟨.integer, fun infinite => ?_⟩
    cases infinite with
    | integer inside => exact inside
  | audioItem =>
    rw [FieldKind.read, map_eq_error_iff, readAudioItem_infinite_iff]
    constructor
    · rintro ⟨members, rfl, inItem⟩
      exact .audioItem inItem
    · intro infinite
      cases infinite with
      | audioItem inItem => exact ⟨_, rfl, inItem⟩
  | trackId =>
    rw [FieldKind.read, map_eq_error_iff]
    exact ⟨fun infinite => absurd infinite readTrackId_ne_infinite,
      fun infinite => by cases infinite⟩
  | boolean =>
    rw [FieldKind.read, map_eq_error_iff]
    exact ⟨fun infinite => absurd infinite readBoolean_ne_infinite,
      fun infinite => by cases infinite⟩
  | text =>
    constructor
    · intro infinite
      cases infinite
    · intro infinite
      cases infinite

/-- An object that is no event is invalid, unless reading it comes to an infinite number. -/
theorem ofMembers_not_invalid_iff :
    (∃ error, ofMembers members = .error error ∧ error.isInvalid = false) ↔
      ObjectInfinity members := by
  simp only [isInvalid_eq_false]
  constructor
  · rintro ⟨_, failed, variant, rfl⟩
    unfold ofMembers at failed
    split at failed
    · cases failed
    · rename_i other named
      cases read : readFields other members with
      | ok event =>
        rw [read] at failed
        cases failed
      | error fault =>
        rw [read] at failed
        cases failed
        obtain ⟨front, field, back, split, readable, infinite⟩ := readFields_eq_error_iff.1 read
        rw [readField, bind_eq_error_iff] at infinite
        rcases infinite with missing | ⟨value, given, infinite⟩
        · exact absurd missing member_ne_infinite
        · exact .field named split readable (member_eq_ok_iff.1 given)
            (read_infinite_iff.1 infinite)
  · rintro ⟨named, split, readable, given, infinite⟩
    exact ⟨_, ofMembers_of_fault named split readable (bind_eq_error_iff.2
      (.inr ⟨_, member_eq_ok_iff.2 given, read_infinite_iff.2 infinite⟩)), _, rfl⟩

end Readers

end Event

/-! ## Streams -/

theorem stop_foldl_next (lines : List String) (reading : Stream.Reading) :
    (lines.foldl Stream.Reading.next reading).stop = none ↔ reading.stop = none ∧
      ∀ line ∈ lines, ∀ fault, Stream.readLine line = .error fault → fault.isInvalid = true := by
  induction lines generalizing reading with
  | nil => simp
  | cons line rest ih =>
    rw [List.foldl_cons, ih, List.forall_mem_cons, ← and_assoc]
    refine and_congr_left fun _ => ?_
    unfold Stream.Reading.next
    cases stopped : reading.stop with
    | some fault => simp [stopped]
    | none =>
      cases read : Stream.readLine line with
      | ok event => simp
      | error fault =>
        cases goesOn : fault.isInvalid <;> simp [goesOn]

/-- Reading goes on after a line unless it is an object that comes to an infinite number. -/
theorem readLine_invalid_iff {line : String} :
    (∀ fault, Stream.readLine line = .error fault → fault.isInvalid = true) ↔
      ∀ members, Json.read line = .ok (.object members) → ¬ Event.ObjectInfinity members := by
  simp only [← Event.ofMembers_not_invalid_iff]
  unfold Stream.readLine
  cases read : Json.read line with
  | error fault => simp [LineFault.isInvalid]
  | ok value =>
    cases value with
    | object members =>
      cases decoded : Event.ofMembers members with
      | ok event => simp [decoded, Except.mapError]
      | error error => simp [decoded, Except.mapError, LineFault.isInvalid]
    | _ => simp [LineFault.isInvalid]

/-- Every object is an event or is merely invalid, unless reading it comes to an infinite number
where an integer is wanted; and the reading of a stream comes to its end exactly if there is no
such object on any line. -/
theorem invalid_unless_infinite (members : Json.Members) (text : String) :
    (((∃ event, Event.ofMembers members = .ok event) ∨
        ∃ error, Event.ofMembers members = .error error ∧ error.isInvalid = true) ↔
      ¬ Event.ObjectInfinity members) ∧
    ((Stream.read text).stop = none ↔ ∀ line ∈ Stream.contents text,
      ∀ members, Json.read line = .ok (.object members) → ¬ Event.ObjectInfinity members) := by
  constructor
  · rw [← Event.ofMembers_not_invalid_iff]
    cases decoded : Event.ofMembers members with
    | ok event => simp
    | error error => simp
  · rw [Stream.read, stop_foldl_next]
    simp only [readLine_invalid_iff, true_and]

/-- An object whose volume is a number beyond the doubles. -/
def infiniteLine : String := "\x7b\"event\":\"VolumeChanged\",\"volume\":1e999\x7d"

/-- An object that is an event. -/
def plainLine : String := "\x7b\"event\":\"VolumeChanged\",\"volume\":5\x7d"

/-- Whether the reading of a stream goes on after a line. -/
def isTaken : Except LineFault Event → Bool
  | .ok _ => true
  | .error fault => fault.isInvalid

/-- An infinite volume is no event and is not merely invalid either: the reading of the stream ends
there, and the event on the next line is lost. -/
theorem infinite_volume_escapes :
    (∃ members, Json.read infiniteLine = .ok (.object members) ∧
      ¬ ((∃ event, Event.ofMembers members = .ok event) ∨
        ∃ error, Event.ofMembers members = .error error ∧ error.isInvalid = true)) ∧
    (Stream.read plainLine).items.length = 1 ∧
    (Stream.read (infiniteLine ++ "\n" ++ plainLine)).items.length = 0 ∧
    (Stream.read (infiniteLine ++ "\n" ++ plainLine)).stop.isSome = true := by
  refine ⟨?_, by decide +kernel, by decide +kernel, by decide +kernel⟩
  have ends : isTaken (Stream.readLine infiniteLine) = false := by decide +kernel
  unfold isTaken Stream.readLine at ends
  cases read : Json.read infiniteLine with
  | error fault =>
    rw [read] at ends
    cases ends
  | ok value =>
    rw [read] at ends
    cases value with
    | object members =>
      refine ⟨members, rfl, ?_⟩
      rintro (⟨event, decoded⟩ | ⟨error, failed, invalid⟩)
      · simp [decoded, Except.mapError] at ends
      · simp [failed, Except.mapError, LineFault.isInvalid, invalid] at ends
    | _ => cases ends

end EventHooks
