import EventHooks.System.OsError
import EventHooks.Text.Blank

/-!
# Failures of commands

A command that could not be run, or did not succeed, is reported with the command and the shell and
at most one of an error of the operating system and what the command wrote to its error output.
-/
namespace EventHooks

/-- What kind of failure it is. -/
inductive FailureKind
  | unspecified
  | spawn
  | command
  | undecodable
  deriving DecidableEq, Repr

/-- What is known of a failure. -/
inductive FailureDetail
  | nothing
  | cause (error : OsError)
  | errors (text : String)
  deriving DecidableEq, Repr

/-- The failure of a command under a shell. -/
structure Failure where
  kind : FailureKind
  shell : String
  command : String
  detail : FailureDetail
  deriving DecidableEq, Repr

namespace Failure

/-- The shell could not be launched, or the output could not be passed on. -/
def spawn (shell command : String) (error : OsError) : Failure :=
  ⟨.spawn, shell, command, .cause error⟩

/-- The command ended with a status other than zero. -/
def unsuccessful (shell command errors : String) : Failure :=
  ⟨.command, shell, command, .errors errors⟩

/-- The output of the command is no text. -/
def undecodable (shell command : String) : Failure :=
  ⟨.undecodable, shell, command, .nothing⟩

/-- A failure of some parts; a cause and error output exclude each other. -/
def ofParts? (kind : FailureKind) (shell command : String) (cause : Option OsError)
    (errors : Option String) : Option Failure :=
  match cause, errors with
  | some _, some _ => none
  | some error, none => some ⟨kind, shell, command, .cause error⟩
  | none, some text => some ⟨kind, shell, command, .errors text⟩
  | none, none => some ⟨kind, shell, command, .nothing⟩

/-- The words that refuse a cause together with error output. -/
def partsMessage : String :=
  "SubprocessError takes either cause or stderr, not both"

/-- The error of the operating system, if it is known. -/
def cause? (failure : Failure) : Option OsError :=
  match failure.detail with
  | .cause error => some error
  | _ => none

/-- The error output, if it is known. -/
def errors? (failure : Failure) : Option String :=
  match failure.detail with
  | .errors text => some text
  | _ => none

/-- The words for what was run. -/
def subject (shell command : String) : String :=
  s!"Failed to run {Text.quoted command} using {Text.quoted shell}"

/-- The words for a failure. Error output is trimmed. -/
def message (failure : Failure) : String :=
  let head := subject failure.shell failure.command
  match failure.detail with
  | .nothing => head
  | .cause error => s!"{head}: {error.message}"
  | .errors text =>
    let trimmed := Text.trim text
    if trimmed.isEmpty then s!"{head}: (empty stderr)" else s!"{head}: {trimmed}"

end Failure

end EventHooks
