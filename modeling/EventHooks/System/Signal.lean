/-!
# Signals

A signal has a number, a name and words that report a process which it has ended. A process that
does not handle a signal is ended by it, is stopped or continued by it, or does not notice it.
-/
namespace EventHooks.Signal

/-- The signals that have names of their own. -/
def named : List (String × Nat) :=
  [("HUP", 1), ("INT", 2), ("QUIT", 3), ("ILL", 4), ("TRAP", 5), ("ABRT", 6), ("BUS", 7),
    ("FPE", 8), ("KILL", 9), ("USR1", 10), ("SEGV", 11), ("USR2", 12), ("PIPE", 13), ("ALRM", 14),
    ("TERM", 15), ("CHLD", 17), ("CONT", 18), ("STOP", 19), ("TSTP", 20), ("TTIN", 21),
    ("TTOU", 22), ("URG", 23), ("XCPU", 24), ("XFSZ", 25), ("VTALRM", 26), ("PROF", 27),
    ("WINCH", 28), ("IO", 29), ("PWR", 30), ("SYS", 31), ("RTMIN", 34), ("RTMAX", 64)]

/-- The number that follows the last signal. -/
def count : Nat := 65

/-- The signal that cannot be handled. -/
def kill : Nat := 9

/-- The signal that asks a process to end. -/
def terminate : Nat := 15

/-- The signal of a process that writes where nobody reads. -/
def brokenPipe : Nat := 13

/-- The signal of an interruption from the keyboard. -/
def interrupt : Nat := 2

/-- The signal of an ending from the keyboard. -/
def quit : Nat := 3

/-- The signal of a process of which a child has ended. -/
def child : Nat := 17

/-- The name of a signal. Those without a name of their own are counted from the next one that has
one, or are their numbers. -/
def name (number : Nat) : String :=
  match named.find? (·.2 == number) with
  | some (name, _) => name
  | none =>
    if 34 < number ∧ number ≤ 49 then s!"RTMIN+{number - 34}"
    else if 49 < number ∧ number < 64 then s!"RTMAX-{64 - number}"
    else toString number

/-- What happens to a process that does not handle a signal. -/
inductive Effect
  | ends
  | stops
  | continues
  | nothing
  deriving DecidableEq, Repr

/-- The effect of a signal on a process that does not handle it. -/
def effect (number : Nat) : Effect :=
  if number = 18 then .continues
  else if [19, 20, 21, 22].contains number then .stops
  else if [0, 17, 23, 28].contains number then .nothing
  else .ends

/-- The words for the end of a process by a signal. -/
def words (number : Nat) : String :=
  match number with
  | 1 => "Hangup"
  | 2 => "Interrupt"
  | 3 => "Quit"
  | 4 => "Illegal instruction"
  | 5 => "Trace/breakpoint trap"
  | 6 => "Aborted"
  | 7 => "Bus error"
  | 8 => "Floating point exception"
  | 9 => "Killed"
  | 10 => "User defined signal 1"
  | 11 => "Segmentation fault"
  | 12 => "User defined signal 2"
  | 13 => "Broken pipe"
  | 14 => "Alarm clock"
  | 15 => "Terminated"
  | 16 => "Stack fault"
  | 24 => "CPU time limit exceeded"
  | 25 => "File size limit exceeded"
  | 26 => "Virtual timer expired"
  | 27 => "Profiling timer expired"
  | 29 => "I/O possible"
  | 30 => "Power failure"
  | 31 => "Bad system call"
  | number =>
    if 34 ≤ number ∧ number ≤ 64 then s!"Real-time signal {number - 34}"
    else s!"Unknown signal {number}"

end EventHooks.Signal
