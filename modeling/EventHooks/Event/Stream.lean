import EventHooks.Event.Decoder
import EventHooks.Json.Reader
import EventHooks.Text.Blank
import EventHooks.Text.Lines

/-!
# Streams of events

A stream is text with one JSON object a line. Blanks around a line are dropped, and so are blank
lines. A line that is no event is reported and skipped, except that a number too large for a double
where an integer is wanted ends the reading.
-/
namespace EventHooks

/-- Why a line is no event. -/
inductive LineFault
  | json (fault : Json.Fault)
  | notObject
  | event (error : DecodeError)

namespace LineFault

/-- The words for a fault. -/
def message : LineFault → String
  | .json fault => fault.message
  | .notObject => "expected a JSON object"
  | .event error => error.message

/-- Whether reading goes on after the line. -/
def isInvalid : LineFault → Bool
  | .event error => error.isInvalid
  | _ => true

end LineFault

/-- One item of a stream. -/
inductive StreamItem
  | event (event : Event)
  | invalid (line : String) (fault : LineFault)

namespace Stream

/-- The event on a line without blanks around it. -/
def readLine (line : String) : Except LineFault Event :=
  match Json.read line with
  | .error fault => .error (.json fault)
  | .ok (.object members) => (Event.ofMembers members).mapError .event
  | .ok _ => .error .notObject

/-- The lines of a stream that hold something, without blanks around them. -/
def contents (text : String) : List String :=
  ((Text.lines text).map Text.trim).filter (!·.isEmpty)

/-- What a stream has been read to: the items so far, how many of them are invalid lines, and the
fault that ended the reading early. -/
structure Reading where
  items : List StreamItem := []
  invalid : Nat := 0
  stop : Option LineFault := none

/-- Takes in one more line. -/
def Reading.next (reading : Reading) (line : String) : Reading :=
  match reading.stop with
  | some _ => reading
  | none =>
    match readLine line with
    | .ok event => { reading with items := reading.items ++ [.event event] }
    | .error fault =>
      if fault.isInvalid then
        { reading with
          items := reading.items ++ [.invalid line fault], invalid := reading.invalid + 1 }
      else { reading with stop := some fault }

/-- Reads a stream to its end, or to the line that ends the reading. -/
def read (text : String) : Reading :=
  (contents text).foldl Reading.next {}

/-- The words that report an invalid line. -/
def invalidMessage (line : String) (fault : LineFault) : String :=
  s!"Ignoring invalid event {Text.quoted line}: {fault.message}"

end Stream

end EventHooks
