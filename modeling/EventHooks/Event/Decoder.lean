import EventHooks.Event
import EventHooks.Json.Value

/-!
# Events from JSON objects

An object names its variant under `event` and the fields of the variant by their names; other
members are ignored. Fields are read in the order of their declaration, so that the first one that
is missing or invalid decides the error.
-/
namespace EventHooks

/-- Why a field cannot be read. -/
inductive FieldFault
  /-- A member of this name is missing, in the event or in its audio item. -/
  | missing (name : String)
  /-- A value of this kind is given as an identifier but has no length. -/
  | noLength (kind : String)
  /-- An element of an identifier has this kind and is no text. -/
  | notText (kind : String)
  /-- A value of this kind is given as an integer. -/
  | notNumber (kind : String)
  | trackId (fault : TrackId.Fault Json)
  | integerText (fault : IntegerText.Fault) (given : String)
  | noInteger (reason : Binary64.NoInteger)
  | notBoolean (name : String)
  | audioItemNotObject
  | coversNotList
  | coverNotObject

/-- Why an object is no event. -/
inductive DecodeError
  | unknownVariant (given : Json)
  | field (variant : Variant) (fault : FieldFault)

namespace FieldFault

/-- The words for a fault in a variant. -/
def message (variant : Variant) : FieldFault → String
  | .missing name => s!"{variant.name} is missing field {Text.quoted name}"
  | .noLength kind => s!"Invalid {variant.name} event: object of type '{kind}' has no len()"
  | .notText kind => s!"Invalid {variant.name} event: must be str, not {kind}"
  | .notNumber kind =>
    s!"Invalid {variant.name} event: int() argument must be a string, a bytes-like object " ++
      s!"or a real number, not '{kind}'"
  | .trackId fault => fault.message Json.shown
  | .integerText .malformed given =>
    "invalid literal for int() with base 10: " ++
      String.ofList ((Text.quoted given).toList.take 200)
  | .integerText (.tooManyDigits count) _ => IntegerText.tooManyDigitsMessage count
  | .noInteger .notANumber => "cannot convert float NaN to integer"
  | .noInteger .infinite => "cannot convert float infinity to integer"
  | .notBoolean name => s!"{name} must be a boolean"
  | .audioItemNotObject => "audio_item must be an object"
  | .coversNotList => "covers must be a list"
  | .coverNotObject => "each cover must be an object"

end FieldFault

namespace DecodeError

/-- The words for an error. -/
def message : DecodeError → String
  | .unknownVariant given => s!"Unknown player event: {given.shown}"
  | .field variant fault => fault.message variant

/-- Whether the object is merely invalid. An infinite number where an integer is wanted is not: it
ends the reading of the stream that it stands in. -/
def isInvalid : DecodeError → Bool
  | .field _ (.noInteger .infinite) => false
  | _ => true

end DecodeError

namespace Event

/-! ## Values of fields -/

/-- The value of a member that must be there. -/
def member (members : Json.Members) (name : String) : Except FieldFault Json :=
  match members.get? name with
  | some value => .ok value
  | none => .error (.missing name)

/-- An integer: an integer, a boolean, the integer part of a finite double, or an integer written
as text. -/
def readInteger : Json → Except FieldFault Int
  | .integer number => .ok number
  | .bool value => .ok (if value then 1 else 0)
  | .float value => value.truncate.mapError .noInteger
  | .text given => (IntegerText.read given).mapError (.integerText · given)
  | value => .error (.notNumber value.kind)

/-- A boolean. -/
def readBoolean (name : String) : Json → Except FieldFault Bool
  | .bool value => .ok value
  | _ => .error (.notBoolean name)

/-- The elements of a value that has a length: characters, items or names. -/
def elements? : Json → Option (List Json)
  | .text value => some (value.toList.map fun c => .text (String.singleton c))
  | .array items => some items
  | .object members => some (members.map fun entry => .text entry.1)
  | _ => none

/-- The first place of a run of characters in a list of characters. -/
def indexOfRun? (run : List Char) : List Char → Option Nat
  | [] => if run.isEmpty then some 0 else none
  | c :: rest =>
    if run.isPrefixOf (c :: rest) then some 0 else (indexOfRun? run rest).map (· + 1)

/-- The value of an element of an identifier: the place where it first occurs among the digits. -/
def readDigit (given : Json) : Json → Except FieldFault Nat
  | .text digit =>
    match indexOfRun? digit.toList TrackId.alphabet with
    | some value => .ok value
    | none => .error (.trackId (.digit (.text digit) given))
  | element => .error (.notText element.kind)

/-- A track identifier, from a text or from the elements of another value that has a length. -/
def readTrackId (given : Json) : Except FieldFault TrackId :=
  match elements? given with
  | none => .error (.noLength given.kind)
  | some elements =>
    if elements.length = TrackId.width then
      match TrackId.ofElements (readDigit given) elements with
      | .ok number => (TrackId.ofNumber given number).mapError .trackId
      | .error fault => .error fault
    else .error (.trackId (.length given))

/-- A picture. -/
def readCover (members : Json.Members) : Except FieldFault Cover := do
  let url ← member members "url"
  let width ← readInteger (← member members "width")
  let height ← readInteger (← member members "height")
  return ⟨url.asText, width, height⟩

/-- The objects in a list, if all items are objects. -/
def objects? (items : List Json) : Option (List Json.Members) :=
  items.mapM fun
    | .object members => some members
    | _ => none

/-- The pictures of an audio item. Any empty value stands for no pictures. -/
def readCovers (value : Json) : Except FieldFault (List Cover) :=
  if value.isEmpty then .ok []
  else
    match value with
    | .array items =>
      match objects? items with
      | some covers => covers.mapM readCover
      | none => .error .coverNotObject
    | _ => .error .coversNotList

/-- An audio item. Its pictures are read first. -/
def readAudioItem : Json → Except FieldFault AudioItem
  | .object members => do
    let covers ← readCovers ((Json.Members.get? members "covers").getD .null)
    let trackId ← readTrackId (← member members "track_id")
    let name ← member members "name"
    let durationMs ← readInteger (← member members "duration_ms")
    return ⟨trackId, name.asText, durationMs, covers⟩
  | _ => .error .audioItemNotObject

/-! ## Events -/

/-- The fields of a variant. -/
def readFields (variant : Variant) (members : Json.Members) : Except FieldFault Event := do
  let trackId := do readTrackId (← member members "track_id")
  let integer (name : String) := do readInteger (← member members name)
  let boolean (name : String) := do readBoolean name (← member members name)
  let text (name : String) := do return (← member members name).asText
  match variant with
  | .playRequestIdChanged => return .playRequestIdChanged (← integer "play_request_id")
  | .stopped => return .stopped (← trackId) (← integer "play_request_id")
  | .loading =>
    return .loading (← trackId) (← integer "play_request_id") (← integer "position_ms")
  | .preloading => return .preloading (← trackId)
  | .playing =>
    return .playing (← trackId) (← integer "play_request_id") (← integer "position_ms")
  | .paused =>
    return .paused (← trackId) (← integer "play_request_id") (← integer "position_ms")
  | .timeToPreloadNextTrack =>
    return .timeToPreloadNextTrack (← trackId) (← integer "play_request_id")
  | .endOfTrack => return .endOfTrack (← trackId) (← integer "play_request_id")
  | .unavailable => return .unavailable (← trackId) (← integer "play_request_id")
  | .volumeChanged => return .volumeChanged (← integer "volume")
  | .positionCorrection =>
    return .positionCorrection (← trackId) (← integer "play_request_id") (← integer "position_ms")
  | .seeked =>
    return .seeked (← trackId) (← integer "play_request_id") (← integer "position_ms")
  | .trackChanged => return .trackChanged (← readAudioItem (← member members "audio_item"))
  | .sessionConnected =>
    return .sessionConnected (← text "connection_id") (← text "user_name")
  | .sessionDisconnected =>
    return .sessionDisconnected (← text "connection_id") (← text "user_name")
  | .sessionClientChanged =>
    return .sessionClientChanged (← text "client_id") (← text "client_name")
      (← text "client_brand_name") (← text "client_model_name")
  | .shuffleChanged => return .shuffleChanged (← boolean "shuffle")
  | .repeatChanged => return .repeatChanged (← boolean "repeat")
  | .autoPlayChanged => return .autoPlayChanged (← boolean "auto_play")
  | .filterExplicitContentChanged =>
    return .filterExplicitContentChanged (← boolean "filter")

/-- The variant that an object names, or what it gives in its place. -/
def namedVariant (members : Json.Members) : Except Json Variant :=
  match (members.get? "event").getD .null with
  | .text name =>
    match Variant.ofName? name with
    | some variant => .ok variant
    | none => .error (.text name)
  | given => .error given

/-- The event of an object. -/
def ofMembers (members : Json.Members) : Except DecodeError Event :=
  match namedVariant members with
  | .error given => .error (.unknownVariant given)
  | .ok variant => (readFields variant members).mapError (.field variant)

end Event

end EventHooks
