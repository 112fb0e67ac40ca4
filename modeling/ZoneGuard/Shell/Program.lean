import ZoneGuard.Shell.Utility.Bytes
import ZoneGuard.Shell.Utility.Characters
import ZoneGuard.Shell.Utility.Condition
import ZoneGuard.Shell.Utility.Editor
import ZoneGuard.Shell.Utility.Facts
import ZoneGuard.Shell.Utility.Files
import ZoneGuard.Shell.Utility.Numbers
import ZoneGuard.Shell.Utility.Search
import ZoneGuard.Shell.Utility.Searching

/-!
# Programs

The utilities that are programs of their own, by name. They only serve the program that runs, whose
engine may be a script that calls them.
-/

namespace ZoneGuard.Shell

abbrev Utility := List Octets → Act Nat

def shellNames : List String := ["sh", "dash"]

def plainPrograms : List (String × Utility) :=
  [("true", fun _ => pure 0), ("false", fun _ => pure 1), ("echo", echoPlainly),
   ("printf", printfPlainly), ("test", testPlainly false), ("[", testPlainly true),
   ("pwd", fun arguments => do
      let s ← get
      printFact "pwd" s.current.path arguments),
   ("cat", cat), ("tac", tac), ("rev", rev), ("cp", cp), ("mv", mv), ("ln", ln), ("rm", rm),
   ("unlink", unlink), ("mkdir", mkdir), ("rmdir", rmdir), ("touch", touch), ("chmod", chmod),
   ("chown", changeOwner "chown"), ("chgrp", changeOwner "chgrp"), ("stat", stat), ("ls", ls),
   ("basename", basename), ("dirname", dirname), ("readlink", readlink), ("realpath", realpath),
   ("mktemp", mktemp), ("sleep", sleep), ("tee", tee),
   ("head", printPortions "head" beginningOf), ("tail", printPortions "tail" endOf), ("wc", wc),
   ("nl", nl), ("paste", paste), ("fold", fold), ("expand", expandTabs), ("truncate", truncate),
   ("tr", tr), ("sort", sort), ("uniq", uniq), ("comm", comm), ("cut", cut), ("grep", grep ""),
   ("egrep", grep "E"), ("fgrep", grep "F"), ("sed", sed), ("seq", seq), ("expr", expr),
   ("od", od), ("cmp", cmp), ("diff", diff), ("dd", dd), ("base64", base64),
   ("sha256sum", sha256sum), ("printenv", printenv), ("uname", uname), ("id", identity),
   ("which", which), ("date", date), ("arch", printFact "arch" "x86_64"),
   ("nproc", printFact "nproc" "1"), ("whoami", printFact "whoami" "root"),
   ("hostname", printFact "hostname" "localhost"), ("groups", printFact "groups" "root"),
   ("logname", fun _ => do
      Act.warn "logname: no login name"
      return 1),
   ("tty", fun _ => do
      Act.print "not a tty\n".toList
      return 1),
   ("sync", fun _ => pure 0), ("yes", yes)]

def startingPrograms (start : Starter) : List (String × Utility) :=
  [("env", env start), ("timeout", timeout start), ("xargs", xargs start), ("find", find start),
   ("nice", plainly start "nice" "n"), ("nohup", plainly start "nohup" ""),
   ("setsid", plainly start "setsid" ""), ("stdbuf", plainly start "stdbuf" "ioe")]

def program? (start : Starter) (name : String) : Option Utility :=
  (plainPrograms.lookup name).or ((startingPrograms start).lookup name)

def programNames : List String :=
  shellNames ++ plainPrograms.map (·.1)
    ++ (startingPrograms fun _ _ => return .error .notFound).map (·.1)

/-- The status of a program that could not write. -/
def unwrittenStatus (name : String) : Nat :=
  if ["sort", "grep", "egrep", "fgrep", "ls", "cmp", "diff"].contains name then 2
  else if name = "sed" then 4
  else 1

/-- Runs a program, which reports if it could not write. -/
def reportingWrites (name : String) (act : Act Nat) : Act Nat := do
  modify fun s => { s with writeFault? := none }
  let status ← act
  let s ← get
  match s.writeFault? with
  | none => return status
  | some e => do
    set { s with writeFault? := none }
    Act.warn (name ++ ": write error: " ++ e.reason)
    return unwrittenStatus name

end ZoneGuard.Shell
