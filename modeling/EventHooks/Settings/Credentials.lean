import EventHooks.Hook.Runner
import EventHooks.Settings

/-!
# Credentials

A user name is given as such or is what a command prints, a password is what a command prints. The
output of a command counts without blanks around it.
-/
namespace EventHooks.Settings

variable {σ : Type} [OperatingSystem σ]

/-- What a command prints, without blanks around it. -/
def printed (settings : Settings) (host : Host σ) (command : String) :
    Except RunError (Option String) × Host σ :=
  let (result, host) := host.run (settings.effectiveShell host.environment) command
  (result.map fun text => some (Text.trim text), host)

/-- The user name: the literal one, or what its command prints. -/
def resolveUsername (settings : Settings) (host : Host σ) :
    Except RunError (Option String) × Host σ :=
  match Given.filled? settings.username, Given.filled? settings.usernameCmd with
  | some name, _ => (.ok (some name), host)
  | none, some command => settings.printed host command
  | none, none => (.ok none, host)

/-- The password: what its command prints. -/
def resolvePassword (settings : Settings) (host : Host σ) :
    Except RunError (Option String) × Host σ :=
  match Given.filled? settings.passwordCmd with
  | some command => settings.printed host command
  | none => (.ok none, host)

end EventHooks.Settings
