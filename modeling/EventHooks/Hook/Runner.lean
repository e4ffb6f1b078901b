import EventHooks.Hook.Failure
import EventHooks.Host

/-!
# Running one command

A command is given to a shell as `-c command`. Run on its own, it yields the text it has written;
a status other than zero, output that is no text and a shell that cannot be launched are failures.
-/
namespace EventHooks

/-- Why a command yields no text: it has failed, or it was never given to the system. -/
inductive RunError
  | failed (failure : Failure)
  | refused (refusal : Refusal)
  deriving DecidableEq, Repr

/-- The invocation of a command under a shell. -/
def shellInvocation (shell command : String) (environment : Environment) : Invocation :=
  ⟨shell, ["-c", command], environment⟩

/-- The error that a launch fails with. -/
def RequestError.toRunError (shell command : String) : RequestError → RunError
  | .system error => .failed (.spawn shell command error)
  | .refused refusal => .refused refusal

namespace Completion

/-- The output of a command that succeeded, or its failure. -/
def verdict (shell command : String) (completion : Completion) : Except Failure Bytes :=
  if completion.status = 0 then .ok completion.output
  else
    match Utf8.decode? completion.errors with
    | some errors => .error (.unsuccessful shell command errors)
    | none => .error (.undecodable shell command)

/-- The text that a command yields, or its failure. -/
def text (shell command : String) (completion : Completion) : Except Failure String :=
  match completion.verdict shell command with
  | .error failure => .error failure
  | .ok output =>
    match Utf8.decode? output with
    | some text => .ok text
    | none => .error (.undecodable shell command)

end Completion

/-- The words that announce a command. -/
def runningMessage (shell command : String) : String :=
  s!"Running {Text.quoted command} using {Text.quoted shell}"

/-- Runs a command to its end. -/
def Host.run {σ : Type} [OperatingSystem σ] (host : Host σ) (shell command : String) :
    Except RunError String × Host σ :=
  let host := host.log .info .process (runningMessage shell command)
  match host.launch (shellInvocation shell command host.environment) .empty with
  | (.error error, host) => (.error (error.toRunError shell command), host)
  | (.ok process, host) =>
    let ((_, completion), host) := host.collect process []
    ((completion.text shell command).mapError .failed, host)

end EventHooks
