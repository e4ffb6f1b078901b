import EventHooks.TrackId

/-!
# Player events

The playback engine reports twenty kinds of events. A kind is a `Variant`, with a name and named
fields; an `Event` is a variant with the values of its fields.
-/
namespace EventHooks

/-- A picture of an audio item. -/
structure Cover where
  url : String
  width : Int
  height : Int
  deriving DecidableEq, Repr

/-- What is being played. -/
structure AudioItem where
  trackId : TrackId
  name : String
  durationMs : Int
  covers : List Cover := []
  deriving DecidableEq, Repr

/-- The kinds of events. -/
inductive Variant
  | playRequestIdChanged
  | stopped
  | loading
  | preloading
  | playing
  | paused
  | timeToPreloadNextTrack
  | endOfTrack
  | unavailable
  | volumeChanged
  | positionCorrection
  | seeked
  | trackChanged
  | sessionConnected
  | sessionDisconnected
  | sessionClientChanged
  | shuffleChanged
  | repeatChanged
  | autoPlayChanged
  | filterExplicitContentChanged
  deriving DecidableEq, Repr

/-- An event of the playback engine. -/
inductive Event
  | playRequestIdChanged (playRequestId : Int)
  | stopped (trackId : TrackId) (playRequestId : Int)
  | loading (trackId : TrackId) (playRequestId positionMs : Int)
  | preloading (trackId : TrackId)
  | playing (trackId : TrackId) (playRequestId positionMs : Int)
  | paused (trackId : TrackId) (playRequestId positionMs : Int)
  | timeToPreloadNextTrack (trackId : TrackId) (playRequestId : Int)
  | endOfTrack (trackId : TrackId) (playRequestId : Int)
  | unavailable (trackId : TrackId) (playRequestId : Int)
  | volumeChanged (volume : Int)
  | positionCorrection (trackId : TrackId) (playRequestId positionMs : Int)
  | seeked (trackId : TrackId) (playRequestId positionMs : Int)
  | trackChanged (audioItem : AudioItem)
  | sessionConnected (connectionId userName : String)
  | sessionDisconnected (connectionId userName : String)
  | sessionClientChanged (clientId clientName clientBrandName clientModelName : String)
  | shuffleChanged (shuffle : Bool)
  | repeatChanged (repeats : Bool)
  | autoPlayChanged (autoPlay : Bool)
  | filterExplicitContentChanged (filter : Bool)
  deriving DecidableEq, Repr

/-! ## Variants -/

namespace Variant

/-- Every variant, in the order of declaration. -/
def all : List Variant :=
  [.playRequestIdChanged, .stopped, .loading, .preloading, .playing, .paused,
    .timeToPreloadNextTrack, .endOfTrack, .unavailable, .volumeChanged, .positionCorrection,
    .seeked, .trackChanged, .sessionConnected, .sessionDisconnected, .sessionClientChanged,
    .shuffleChanged, .repeatChanged, .autoPlayChanged, .filterExplicitContentChanged]

/-- The name of a variant. -/
def name : Variant → String
  | .playRequestIdChanged => "PlayRequestIdChanged"
  | .stopped => "Stopped"
  | .loading => "Loading"
  | .preloading => "Preloading"
  | .playing => "Playing"
  | .paused => "Paused"
  | .timeToPreloadNextTrack => "TimeToPreloadNextTrack"
  | .endOfTrack => "EndOfTrack"
  | .unavailable => "Unavailable"
  | .volumeChanged => "VolumeChanged"
  | .positionCorrection => "PositionCorrection"
  | .seeked => "Seeked"
  | .trackChanged => "TrackChanged"
  | .sessionConnected => "SessionConnected"
  | .sessionDisconnected => "SessionDisconnected"
  | .sessionClientChanged => "SessionClientChanged"
  | .shuffleChanged => "ShuffleChanged"
  | .repeatChanged => "RepeatChanged"
  | .autoPlayChanged => "AutoPlayChanged"
  | .filterExplicitContentChanged => "FilterExplicitContentChanged"

/-- The variant with a name. -/
def ofName? (name : String) : Option Variant :=
  all.find? (·.name == name)

/-- The names of a variant's fields, in the order in which they are read. -/
def fields : Variant → List String
  | .playRequestIdChanged => ["play_request_id"]
  | .preloading => ["track_id"]
  | .stopped | .timeToPreloadNextTrack | .endOfTrack | .unavailable =>
    ["track_id", "play_request_id"]
  | .loading | .playing | .paused | .positionCorrection | .seeked =>
    ["track_id", "play_request_id", "position_ms"]
  | .volumeChanged => ["volume"]
  | .trackChanged => ["audio_item"]
  | .sessionConnected | .sessionDisconnected => ["connection_id", "user_name"]
  | .sessionClientChanged =>
    ["client_id", "client_name", "client_brand_name", "client_model_name"]
  | .shuffleChanged => ["shuffle"]
  | .repeatChanged => ["repeat"]
  | .autoPlayChanged => ["auto_play"]
  | .filterExplicitContentChanged => ["filter"]

/-- Every variant is listed. -/
theorem mem_all (variant : Variant) : variant ∈ all := by
  cases variant <;> decide

end Variant

/-! ## Fields of events -/

/-- The value of a field. -/
inductive FieldValue
  | trackId (id : TrackId)
  | integer (number : Int)
  | boolean (value : Bool)
  | text (value : String)
  | audioItem (item : AudioItem)
  deriving DecidableEq, Repr

namespace Event

/-- The variant of an event. -/
def variant : Event → Variant
  | .playRequestIdChanged .. => .playRequestIdChanged
  | .stopped .. => .stopped
  | .loading .. => .loading
  | .preloading .. => .preloading
  | .playing .. => .playing
  | .paused .. => .paused
  | .timeToPreloadNextTrack .. => .timeToPreloadNextTrack
  | .endOfTrack .. => .endOfTrack
  | .unavailable .. => .unavailable
  | .volumeChanged .. => .volumeChanged
  | .positionCorrection .. => .positionCorrection
  | .seeked .. => .seeked
  | .trackChanged .. => .trackChanged
  | .sessionConnected .. => .sessionConnected
  | .sessionDisconnected .. => .sessionDisconnected
  | .sessionClientChanged .. => .sessionClientChanged
  | .shuffleChanged .. => .shuffleChanged
  | .repeatChanged .. => .repeatChanged
  | .autoPlayChanged .. => .autoPlayChanged
  | .filterExplicitContentChanged .. => .filterExplicitContentChanged

/-- The values of an event's fields, in the order of the fields. -/
def values : Event → List FieldValue
  | .playRequestIdChanged request => [.integer request]
  | .preloading id => [.trackId id]
  | .stopped id request | .timeToPreloadNextTrack id request | .endOfTrack id request
  | .unavailable id request => [.trackId id, .integer request]
  | .loading id request position | .playing id request position | .paused id request position
  | .positionCorrection id request position | .seeked id request position =>
    [.trackId id, .integer request, .integer position]
  | .volumeChanged volume => [.integer volume]
  | .trackChanged item => [.audioItem item]
  | .sessionConnected connection user | .sessionDisconnected connection user =>
    [.text connection, .text user]
  | .sessionClientChanged client clientName brand model =>
    [.text client, .text clientName, .text brand, .text model]
  | .shuffleChanged value | .repeatChanged value | .autoPlayChanged value
  | .filterExplicitContentChanged value => [.boolean value]

/-- The fields of an event with their names. -/
def fields (event : Event) : List (String × FieldValue) :=
  event.variant.fields.zip event.values

/-- Every field has a value. -/
theorem length_values (event : Event) : event.values.length = event.variant.fields.length := by
  cases event <;> rfl

end Event

end EventHooks
