import EventHooks.System.OsError
import EventHooks.Text.Utf8

/-!
# Sinks

A sink takes the output of hooks, all of a piece or not at all.
-/
namespace EventHooks

/-- What a sink holds, and why it does not take a piece. -/
structure Sink where
  contents : Bytes := []
  refusal? : Bytes → Option OsError := fun _ => none

namespace Sink

/-- A sink that takes everything. -/
def memory : Sink := {}

/-- A sink before a stream: a piece is written, and the stream is flushed. The piece is refused for
the error of the write or, if that succeeds, for the error of the flush. -/
def ofStream (writeError? flushError? : Bytes → Option OsError) : Sink :=
  { refusal? := fun bytes => (writeError? bytes).or (flushError? bytes) }

/-- A sink without room for a single byte. Bytes are taken into a buffer, and flushing it fails. -/
def full : Sink :=
  ofStream (fun _ => none)
    fun bytes => if bytes.isEmpty then none else some (.ofErrno .noSpace none)

/-- Writes a piece. -/
def write (sink : Sink) (bytes : Bytes) : Option OsError × Sink :=
  match sink.refusal? bytes with
  | some error => (some error, sink)
  | none => (none, { sink with contents := sink.contents ++ bytes })

end Sink

end EventHooks
