import EventHooks.Utility.ArgumentLists
import EventHooks.Utility.Blocks
import EventHooks.Utility.Characters
import EventHooks.Utility.Comparison
import EventHooks.Utility.Counts
import EventHooks.Utility.Digest
import EventHooks.Utility.Editor
import EventHooks.Utility.Encoding
import EventHooks.Utility.FileTree
import EventHooks.Utility.Grep
import EventHooks.Utility.Launch
import EventHooks.Utility.Lines
import EventHooks.Utility.Listing
import EventHooks.Utility.Name
import EventHooks.Utility.Scanner
import EventHooks.Utility.Search
import EventHooks.Utility.Sorting
import EventHooks.Utility.Stream
import EventHooks.Utility.Surroundings
import EventHooks.Utility.Words

/-!
# Utilities

All utilities by their names.
-/
namespace EventHooks.Utility

/-- A utility that only has a status. -/
def ending (status : Nat) : Tool := fun _ => return status

/-- The utilities. -/
def tools : List (String × Tool) :=
  [("[", test true), ("arch", constantLine "x86_64"), ("awk", awk), ("base64", base64),
    ("basename", basename), ("cat", cat), ("chmod", chmod), ("cksum", cksum), ("cmp", cmp),
    ("comm", comm), ("cp", cp), ("cut", cut), ("date", date), ("dd", dd), ("diff", diff),
    ("dirname", dirname), ("echo", echo), ("egrep", grepTool .extended), ("env", env),
    ("expand", expand), ("expr", expr), ("false", ending 1), ("fgrep", grepTool .fixed),
    ("find", find), ("fold", fold), ("grep", grepTool .basic), ("groups", constantLine "root"),
    ("head", head), ("hostname", constantLine "localhost"), ("id", identity), ("join", join),
    ("ls", ls), ("md5sum", digestTool "MD5" digest128), ("mkdir", mkdir), ("mktemp", mktemp),
    ("mv", mv), ("nice", nice), ("nl", nl), ("nohup", nohup), ("nproc", constantLine "1"),
    ("od", od), ("paste", paste), ("printenv", printenv), ("printf", printf), ("pwd", pwd),
    ("readlink", readlink), ("realpath", realpath), ("rev", rev), ("rm", rm), ("rmdir", rmdir),
    ("sed", sed), ("seq", seq), ("setsid", setsid), ("sha1sum", digestTool "SHA1" digest160),
    ("sha256sum", digestTool "SHA256" digest256), ("sleep", sleep), ("sort", sort), ("stat", stat),
    ("stdbuf", stdbuf), ("sum", sum), ("sync", ending 0), ("tac", tac), ("tail", tail),
    ("tee", tee), ("test", test false), ("timeout", timeout), ("touch", touch), ("tr", tr),
    ("true", ending 0), ("truncate", truncate), ("tty", tty), ("uname", uname), ("uniq", uniq),
    ("unlink", unlink), ("wc", wc), ("which", which), ("whoami", whoami), ("xargs", xargs),
    ("yes", yes)]

/-- The utility with a name. -/
def tool? (name : String) : Option Tool :=
  (tools.find? (·.1 == name)).map (·.2)

end EventHooks.Utility
