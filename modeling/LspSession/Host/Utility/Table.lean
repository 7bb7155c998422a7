import LspSession.Host.Utility.Calendar
import LspSession.Host.Utility.Compare
import LspSession.Host.Utility.Copy
import LspSession.Host.Utility.Digest
import LspSession.Host.Utility.Files
import LspSession.Host.Utility.Launch
import LspSession.Host.Utility.Lines
import LspSession.Host.Utility.Records.Run
import LspSession.Host.Utility.Search
import LspSession.Host.Utility.Spacing
import LspSession.Host.Utility.Stream
import LspSession.Host.Utility.Words
import LspSession.Host.Shell.Run

/-!
# `LspSession.Host.Utility.Table`: the utilities by name

The table of all programs that are not shells. Some of them start others, and are given a way to do
that.
-/

set_option autoImplicit false

namespace LspSession.Utility

open Shell Shell.Activity

/-- The utilities that start no other program, by name. -/
def table : List (String × Shell.Utility) :=
  [("[", bracket), ("arch", always "x86_64"), ("base64", base64), ("basename", basename),
    ("cat", cat), ("chmod", chmod), ("cksum", cksum), ("cmp", cmp), ("comm", comm), ("cp", cp),
    ("cut", cut), ("date", date), ("dd", dd), ("diff", diff), ("dirname", dirname),
    ("echo", echo), ("egrep", grep 'E'), ("expand", expand), ("expr", expr), ("factor", factor),
    ("false", fun _ => return failed), ("fgrep", grep 'F'), ("fold", fold), ("grep", grep 'G'),
    ("groups", always "root"), ("head", head), ("hostname", always "localhost"), ("id", id),
    ("kill", kill), ("ln", ln), ("ls", ls), ("mkdir", mkdir), ("mktemp", mktemp), ("mv", mv),
    ("nl", nl), ("nproc", always "4"), ("od", od), ("paste", paste), ("printenv", printenv),
    ("printf", printf), ("pwd", pwd), ("readlink", readlink), ("realpath", realpath),
    ("rev", rev), ("rm", rm), ("rmdir", rmdir), ("sed", sed), ("seq", seq), ("shuf", shuf),
    ("sleep", sleep), ("sort", sort), ("stat", stat), ("sum", sum),
    ("sync", fun _ => return success), ("tac", tac), ("tail", tail), ("tee", tee),
    ("test", test), ("touch", touch), ("tr", tr), ("true", fun _ => return success),
    ("truncate", truncate), ("tty", tty), ("uname", uname), ("unexpand", unexpand),
    ("uniq", uniq), ("unlink", unlink), ("wc", wc), ("which", which), ("whoami", always "root"),
    ("yes", yes)] ++
    digests.map fun (name, of) => (name, digest name of)

/-- The utilities that start other programs, by name. -/
def launchers : List (String × (Shell.Utility → Shell.Utility)) :=
  [("awk", Records.awk), ("env", env), ("mawk", Records.awk), ("nawk", Records.awk),
    ("nice", fun start => simply start "nice" (behindOptions ['n'])),
    ("nohup", fun start => simply start "nohup" (behindOptions [])),
    ("setsid", fun start => simply start "setsid" (behindOptions [])),
    ("stdbuf", fun start => simply start "stdbuf" (behindOptions ['i', 'o', 'e'])),
    ("timeout", timeout), ("xargs", xargs)]

/-- The names of all programs. -/
def names : List String :=
  ["bash", "dash"] ++ table.map (·.1) ++ launchers.map (·.1)

/-- The utility of a name, given how words are run as a command. -/
def find? (start : Shell.Utility) (name : String) : Option Shell.Utility :=
  (table.lookup name).or ((launchers.lookup name).map (· start))

end LspSession.Utility
