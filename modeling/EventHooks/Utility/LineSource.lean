import EventHooks.Utility.Call

/-!
# Sources of lines

The lines of several inputs, one after the other. Inputs are opened when their turn comes, and no
more is read than the next line needs.
-/
namespace EventHooks.Utility

/-- A source of lines: the inputs that are not yet opened, the one that is, the lines that were read
from it, and what was read behind them. `path` is the present input, and `ending` ends lines. -/
structure LineSource where
  paths : List String
  path : String := "-"
  handle? : Option Nat := none
  lines : List Bytes := []
  rest : List Bytes := []
  failures : Nat := 0
  ending : UInt8 := 10

namespace LineSource

/-- A line with whether it has an end, and the input that it is from. -/
structure Item where
  line : Bytes
  isWhole : Bool
  path : String

variable {m : Type → Type} [Monad m] [MonadLiftT Program m]

/-- Takes the next line. An input that cannot be read is complained of by `refuse`. -/
def next? (refuse : String → Errno → m Unit) :
    Nat → LineSource → m (Option Item × LineSource)
  | 0, source => return (none, source)
  | fuel + 1, source => do
    match source.lines with
    | line :: lines => return (some ⟨line, true, source.path⟩, { source with lines := lines })
    | [] =>
      match source.handle? with
      | some handle =>
        match ← (Program.readFrom handle 65536 Program.patience : Program _) with
        | .ok [] =>
          let rest := source.rest.reverse.flatten
          let source := { source with handle? := none, rest := [] }
          if rest.isEmpty then next? refuse fuel source
          else return (some ⟨rest, false, source.path⟩, source)
        | .ok bytes =>
          if bytes.contains source.ending then
            let (lines, rest) := wholeLines ((bytes :: source.rest).reverse.flatten) source.ending
            next? refuse fuel
              { source with lines := lines, rest := if rest.isEmpty then [] else [rest] }
          else next? refuse fuel { source with rest := bytes :: source.rest }
        | .error errno =>
          refuse source.path errno
          next? refuse fuel
            { source with handle? := none, rest := [], failures := source.failures + 1 }
      | none =>
        match source.paths with
        | [] => return (none, source)
        | path :: paths =>
          let opening : Program (Except Errno Nat) := do
            if path == "-" then
              match ← Program.handle? 0 with
              | some handle => return .ok handle
              | none => return .error .badDescriptor
            else Program.openPath path Opening.input
          match ← opening with
          | .ok handle =>
            next? refuse fuel { source with paths := paths, path := path, handle? := some handle }
          | .error errno =>
            refuse path errno
            next? refuse fuel { source with paths := paths, failures := source.failures + 1 }

end LineSource

end EventHooks.Utility
