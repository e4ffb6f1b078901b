import EventHooks.Environment
import EventHooks.Event
import EventHooks.Json.Value

/-!
# The variables of an event

A hook learns of its event through environment variables. `PLAYER_EVENT` is a token that names the
variant; the other variables hold the fields. An identifier without a text form leaves `TRACK_ID`
unset, and of an item's pictures only the address of the widest is passed on. An integer with more
digits than can be written leaves no variables at all (`Event.environment?`).
-/
namespace EventHooks

/-- Every variable that an event may set. -/
def variableNames : List String :=
  ["PLAYER_EVENT", "PLAY_REQUEST_ID", "TRACK_ID", "POSITION_MS", "VOLUME", "TRACK_NAME",
    "TRACK_DURATION", "TRACK_COVER", "CONNECTION_ID", "USERNAME", "CLIENT_ID", "CLIENT_NAME",
    "CLIENT_BRAND", "CLIENT_MODEL", "SHUFFLE", "REPEAT", "AUTOPLAY", "FILTEREXPLICIT"]

/-- The token of a variant. -/
def Variant.token : Variant → String
  | .playRequestIdChanged => "playrequestid_changed"
  | .stopped => "stop"
  | .loading => "load"
  | .preloading => "preloading"
  | .playing => "start"
  | .paused => "pause"
  | .timeToPreloadNextTrack => "preload"
  | .endOfTrack => "endoftrack"
  | .unavailable => "unavailable"
  | .volumeChanged => "volumeset"
  | .positionCorrection => "positioncorrection"
  | .seeked => "seeked"
  | .trackChanged => "change"
  | .sessionConnected => "sessionconnected"
  | .sessionDisconnected => "sessiondisconnected"
  | .sessionClientChanged => "clientchanged"
  | .shuffleChanged => "shuffle_changed"
  | .repeatChanged => "repeat_changed"
  | .autoPlayChanged => "autoplay_changed"
  | .filterExplicitContentChanged => "filterexplicit_changed"

/-- The variables that each of a variant's fields may set, in order. -/
def Variant.keys : Variant → List (List String)
  | .playRequestIdChanged => [["PLAY_REQUEST_ID"]]
  | .preloading => [["TRACK_ID"]]
  | .stopped | .timeToPreloadNextTrack | .endOfTrack | .unavailable =>
    [["TRACK_ID"], ["PLAY_REQUEST_ID"]]
  | .loading | .playing | .paused | .positionCorrection | .seeked =>
    [["TRACK_ID"], ["PLAY_REQUEST_ID"], ["POSITION_MS"]]
  | .volumeChanged => [["VOLUME"]]
  | .trackChanged => [["TRACK_ID", "TRACK_NAME", "TRACK_DURATION", "TRACK_COVER"]]
  | .sessionConnected | .sessionDisconnected => [["CONNECTION_ID"], ["USERNAME"]]
  | .sessionClientChanged => [["CLIENT_ID"], ["CLIENT_NAME"], ["CLIENT_BRAND"], ["CLIENT_MODEL"]]
  | .shuffleChanged => [["SHUFFLE"]]
  | .repeatChanged => [["REPEAT"]]
  | .autoPlayChanged => [["AUTOPLAY"]]
  | .filterExplicitContentChanged => [["FILTEREXPLICIT"]]

namespace Environment

/-- Sets or unsets the variable of a track identifier. -/
def setTrackId (environment : Environment) (id : TrackId) : Environment :=
  match id.format? with
  | some text => environment.set "TRACK_ID" text
  | none => environment.erase "TRACK_ID"

/-- Sets a variable to an integer. -/
def setInteger (environment : Environment) (name : String) (number : Int) : Environment :=
  environment.set name (IntegerText.render number)

end Environment

/-- The widest of some pictures, the first one of several. -/
def widest? : List Cover → Option Cover
  | [] => none
  | cover :: covers =>
    some (covers.foldl (fun best next => if best.width < next.width then next else best) cover)

/-- Sets the variables of an audio item, whatever its length. -/
def AudioItem.setVariables (item : AudioItem) (environment : Environment) : Environment :=
  let described := ((environment.setTrackId item.trackId).set "TRACK_NAME" item.name).setInteger
    "TRACK_DURATION" item.durationMs
  match widest? item.covers with
  | some cover => described.set "TRACK_COVER" cover.url
  | none => described

/-- Sets the variables of an audio item, if its length has few enough digits to be written. -/
def AudioItem.setVariables? (item : AudioItem) (environment : Environment) : Option Environment :=
  if IntegerText.Renders item.durationMs then some (item.setVariables environment) else none

/-- The word for a boolean. -/
def booleanWord (value : Bool) : String :=
  if value then "true" else "false"

namespace Event

/-- The variables that the fields of an event set on top of others. -/
def setVariables (environment : Environment) : Event → Environment
  | .playRequestIdChanged request => environment.setInteger "PLAY_REQUEST_ID" request
  | .preloading id => environment.setTrackId id
  | .stopped id request | .timeToPreloadNextTrack id request | .endOfTrack id request
  | .unavailable id request =>
    (environment.setTrackId id).setInteger "PLAY_REQUEST_ID" request
  | .loading id request position | .playing id request position | .paused id request position
  | .positionCorrection id request position | .seeked id request position =>
    ((environment.setTrackId id).setInteger "PLAY_REQUEST_ID" request).setInteger
      "POSITION_MS" position
  | .volumeChanged volume => environment.setInteger "VOLUME" volume
  | .trackChanged item => item.setVariables environment
  | .sessionConnected connection user | .sessionDisconnected connection user =>
    (environment.set "CONNECTION_ID" connection).set "USERNAME" user
  | .sessionClientChanged client clientName brand model =>
    (((environment.set "CLIENT_ID" client).set "CLIENT_NAME" clientName).set
      "CLIENT_BRAND" brand).set "CLIENT_MODEL" model
  | .shuffleChanged value => environment.set "SHUFFLE" (booleanWord value)
  | .repeatChanged value => environment.set "REPEAT" (if value then "all" else "none")
  | .autoPlayChanged value => environment.set "AUTOPLAY" (booleanWord value)
  | .filterExplicitContentChanged value =>
    environment.set "FILTEREXPLICIT" (booleanWord value)

/-- The variables of an event, whatever its integers. -/
def environment (event : Event) : Environment :=
  event.setVariables [("PLAYER_EVENT", event.variant.token)]

end Event

/-! ## Integers that can be written -/

/-- The numbers that a field writes, each with the variable that it is written to. -/
def FieldValue.numbers (names : List String) : FieldValue → List (String × Int)
  | .integer number => names.map (·, number)
  | .audioItem item => [("TRACK_DURATION", item.durationMs)]
  | _ => []

namespace Event

/-- The numbers that an event writes, each with the variable that it is written to. -/
def numbers (event : Event) : List (String × Int) :=
  (List.zipWith FieldValue.numbers event.variant.keys event.values).flatten

/-- Each number that an event writes has few enough digits to be written. -/
def Renders (event : Event) : Prop :=
  ∀ entry ∈ event.numbers, IntegerText.Renders entry.2

instance (event : Event) : Decidable event.Renders :=
  inferInstanceAs (Decidable (∀ entry ∈ event.numbers,
    entry.2.natAbs < Nat.pow 10 IntegerText.digitLimit))

/-- The variables of an event, if all of its numbers can be written. -/
def environment? (event : Event) : Option Environment :=
  if event.Renders then some event.environment else none

end Event

/-! ## Values that are no events -/

/-- A value offered where an event is wanted. -/
inductive Offer
  | event (event : Event)
  | trackId (id : TrackId)
  | cover (cover : Cover)
  | audioItem (item : AudioItem)
  | value (value : Json)

/-- A track identifier on one line. -/
def TrackId.shown (id : TrackId) : String :=
  s!"TrackId(raw={IntegerText.render id.raw})"

/-- A picture on one line. -/
def Cover.shown (cover : Cover) : String :=
  s!"CoverImage(url={Text.quoted cover.url}, width={IntegerText.render cover.width}, " ++
    s!"height={IntegerText.render cover.height})"

/-- A sequence in parentheses; a single item is followed by a comma. -/
def shownSequence : List String → String
  | [item] => s!"({item},)"
  | items => "(" ++ ", ".intercalate items ++ ")"

/-- An audio item on one line. -/
def AudioItem.shown (item : AudioItem) : String :=
  s!"AudioItem(track_id={item.trackId.shown}, name={Text.quoted item.name}, " ++
    s!"duration_ms={IntegerText.render item.durationMs}, " ++
    s!"covers={shownSequence (item.covers.map Cover.shown)})"

/-- The words that refuse a value that is no event. -/
def notAnEvent (shown : String) : String :=
  s!"Not a player event: {shown}"

/-- The variables of an offered event, or the words that refuse it for its integers, or that refuse
another value. -/
def Offer.environment : Offer → Except String Environment
  | .event given =>
    match given.environment? with
    | some environment => .ok environment
    | none => .error IntegerText.unwritableMessage
  | .trackId given => .error (notAnEvent given.shown)
  | .cover given => .error (notAnEvent given.shown)
  | .audioItem given => .error (notAnEvent given.shown)
  | .value given => .error (notAnEvent given.shown)

end EventHooks
