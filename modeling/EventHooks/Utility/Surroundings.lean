import EventHooks.Utility.FileTree

/-!
# Utilities about users, the system and the time

Who runs, on what, and when.
-/
namespace EventHooks.Utility

/-! ## Users and the system -/

/-- Refuses arguments. -/
def refuseOperands (call : Call) (words : List String) : Program Unit := do
  match words with
  | [] => return ()
  | word :: _ => call.misuse s!"extra operand {quoted word}"

/-- Writes the numbers of a user. -/
def identity : Tool := fun call => do
  let known : Known :=
    { letters := "agGnruzZ", long := [("user", 'u'), ("group", 'g'), ("groups", 'G'), ("name", 'n'),
        ("real", 'r')] }
  let (options, users) ← call.parse known
  forEach (fun user => do
    if user != "root" && user != "0" then
      call.complain s!"{quoted user}: no such user"
      return 1
    else
      let isShort := ['u', 'g', 'G'].any (given options)
      call.print (if isShort then if given options 'n' then "root\n" else "0\n"
        else "uid=0(root) gid=0(root) groups=0(root)\n")
      return 0) (if users.isEmpty then ["root"] else users) 0

/-- Writes the name of the user. -/
def whoami : Tool := fun call => do
  let (_, words) ← call.parse { letters := "" }
  refuseOperands call words
  call.print "root\n"
  return 0

/-- Writes what the system is. -/
def uname : Tool := fun call => do
  let known : Known :=
    { letters := "asnrvmpio", long := [("all", 'a'), ("kernel-name", 's'), ("nodename", 'n'),
        ("machine", 'm')] }
  let (options, words) ← call.parse known
  refuseOperands call words
  let parts := [('s', "Linux"), ('n', "localhost"), ('r', "6.1.0"), ('v', "#1 SMP"),
    ('m', "x86_64"), ('o', "GNU/Linux")]
  let shown := parts.filter fun part =>
    given options 'a' || given options part.1 || (options.isEmpty && part.1 == 's')
  call.print (" ".intercalate (shown.map (·.2)) ++ "\n")
  return 0

/-- Writes a line that is always the same. -/
def constantLine (line : String) : Tool := fun call => do
  let (_, words) ← call.parse { letters := "" }
  refuseOperands call words
  call.print (line ++ "\n")
  return 0

/-- Tells that the standard input is no terminal. -/
def tty : Tool := fun call => do
  let call := call.failingWith 3
  let (options, words) ← call.parse { letters := "s", long := [("silent", 's'), ("quiet", 's')],
                                      failure := 2 }
  refuseOperands call words
  if !given options 's' then call.print "not a tty\n"
  return 1

/-- Writes where programs are. -/
def which : Tool := fun call => do
  let (options, names) ← call.parse { letters := "as" }
  if names.isEmpty then return 1
  let files ← Program.seenFiles
  let isProgram (path : String) : Bool :=
    match files.status path with
    | .ok (.program _) | .ok (.file _ true) => true
    | _ => false
  forEach (fun name => do
    let paths := searchPaths ((call.environment.get? "PATH").elim [] fun path =>
      [("PATH", ByteText.toText path)]) (ByteText.toText name)
    match paths.filter isProgram with
    | [] => return 1
    | found =>
      let shown := if given options 'a' then found else found.take 1
      if !given options 's' then
        call.print (String.join (shown.map fun path => ByteText.ofText path ++ "\n"))
      return 0) names 0

/-! ## Time -/

/-- Writes the time. -/
def date : Tool := fun call => do
  let known : Known :=
    { letters := "d:f:Ir:Rs:u", long := [("date", 'd'), ("utc", 'u'), ("universal", 'u'),
        ("rfc-email", 'R'), ("iso-8601", 'I')] }
  let (options, words) ← call.parse known
  let now ← presentTime
  let time? := match valueOf? options 'd' with
    | some text => Calendar.read? now text
    | none => some now
  match time?, words with
  | none, _ =>
    let value := quoted ((valueOf? options 'd').getD "")
    call.complain s!"invalid date {value}"
    return 1
  | some time, words =>
    match words with
    | [] =>
      let format := if given options 'I' then "%F"
        else if given options 'R' then "%a, %d %b %Y %T %z"
        else "%a %b %e %T %Z %Y"
      call.print (Calendar.text time format ++ "\n")
      return 0
    | word :: rest =>
      match word.toList, rest with
      | '+' :: format, [] =>
        call.print (Calendar.text time (String.ofList format) ++ "\n")
        return 0
      | _, extra :: _ => call.misuse s!"extra operand {quoted extra}"
      | _, [] =>
        call.complain s!"invalid date {quoted word}"
        return 1

end EventHooks.Utility
