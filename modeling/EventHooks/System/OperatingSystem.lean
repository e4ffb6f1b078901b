import EventHooks.System.Launch
import EventHooks.System.World

/-!
# Operating systems

An operating system runs programs side by side on the files. Launching a program does not wait for
it; its output is collected when it has ended, and its input stays open until it is closed. What
programs do is left to the system.
-/
namespace EventHooks

/-- What a program reads: nothing, or whatever comes until its input is closed. -/
inductive StandardInput
  | empty
  | held
  deriving DecidableEq, Repr

/-- A system of programs that run side by side, with all of its state but the files. -/
class OperatingSystem (σ : Type) where
  /-- Launches a program. -/
  launch : Invocation → StandardInput → FileStore → σ → Except OsError ProcessId × FileStore × σ
  /-- Closes the input of a process. -/
  closeInput : ProcessId → σ → σ
  /-- Waits until the first one of some processes has ended, and collects what it has written. -/
  collect : ProcessId → List ProcessId → FileStore → σ → (ProcessId × Completion) × FileStore × σ
  /-- Kills a process, unless it has ended, and answers its status. -/
  kill : ProcessId → σ → Int × σ
  /-- Lets microseconds pass. -/
  elapse : Nat → FileStore → σ → FileStore × σ

end EventHooks
