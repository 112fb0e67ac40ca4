import ZoneGuard.Engine.Host
import ZoneGuard.Settings
import ZoneGuard.Shell.Run

/-!
# Machines

A host that is a value: a file tree, a current directory and an environment. Its commands are the
shell and the utilities; the directories of runs get names that are not in use. The program runs on
one; what is proved of sessions holds on every host.
-/

namespace ZoneGuard

open Files (OsError Tree)

/-- A machine. -/
structure Machine where
  tree : Tree
  /-- The current directory. -/
  current : Files.Location := []
  environment : Environment := []

namespace Machine

/-! ### Files -/

/-- The directories of a machine without files of its own. -/
def bareDirectories : List Files.Location :=
  [["dev"], ["etc"], ["home"], ["mnt"], ["opt"], ["proc"], ["proc", "self"],
   ["proc", "self", "fd"], ["root"], ["run"], ["srv"], ["sys"], ["tmp"], ["usr"],
   ["usr", "bin"], ["usr", "lib"], ["usr", "local"], ["usr", "local", "bin"],
   ["usr", "sbin"], ["usr", "share"], ["var"], ["var", "tmp"]]

/-- The place of what is written to the standard output as a file, and to the standard error. -/
def outputPlace : Files.Location := ["dev", "stdout"]
@[inherit_doc outputPlace]
def errorPlace : Files.Location := ["dev", "stderr"]

/-- The files that a machine has from the beginning, which tell of its user and its name. -/
def bareFiles : List (Files.Location × String) :=
  [(["etc", "group"], "root:x:0:\n"), (["etc", "hostname"], "localhost\n"),
   (["etc", "hosts"], "127.0.0.1\tlocalhost\n"),
   (["etc", "passwd"], "root:x:0:0:root:/root:/bin/sh\n")]

/-- The tree of a machine without files of its own: directories, devices and programs. -/
def bareTree : Tree :=
  let devices : List (Files.Location × Files.Entry) :=
    [(["dev", "null"], .device .null), (["dev", "zero"], .device .zero),
     (["dev", "full"], .device .full), (["dev", "random"], .device .zero),
     (["dev", "urandom"], .device .zero), (["dev", "tty"], .device .terminal),
     (["dev", "stdin"], .device .null)]
  let links : List (Files.Location × Files.Entry) :=
    [(["bin"], .link "usr/bin"), (["sbin"], .link "usr/sbin"), (["lib"], .link "usr/lib"),
     (["dev", "fd"], .link "/proc/self/fd"), (["proc", "self", "fd", "0"], .link "/dev/stdin"),
     (["proc", "self", "fd", "1"], .link "/dev/stdout"),
     (["proc", "self", "fd", "2"], .link "/dev/stderr")]
  let programs : List (Files.Location × Files.Entry) :=
    Shell.programNames.map fun name => (["usr", "bin", name], .program name)
  let t : Tree :=
    { entries := bareDirectories.map (·, .directory) ++ devices ++ links ++ programs }
  let t := bareFiles.foldl (fun t (place, text) =>
    t.add place { content := Text.encode text }) t
  (t.add outputPlace {}).add errorPlace {}

def change (m : Machine) (f : Tree → Files.Location → Except OsError Tree) :
    Except OsError Unit × Machine :=
  match f m.tree m.current with
  | .ok tree => (.ok (), { m with tree })
  | .error e => (.error e, m)

def readText (m : Machine) (path : String) : Except OsError String :=
  m.tree.readText m.current path

def writeFile (m : Machine) (path content : String) : Except OsError Unit × Machine :=
  m.change fun t current => t.write current path (Text.encode content)

/-- Takes what has been written to a place as a file away from there. -/
def takeWritten (m : Machine) (place : Files.Location) : String × Machine :=
  match m.tree.get? place with
  | some (.file number) =>
    (Text.decodeLenient (m.tree.file number).content,
      { m with tree := m.tree.setContent number [] })
  | _ => ("", m)

/-! ### Directories of runs -/

def nameDigits : List Char := "0123456789abcdefghijklmnopqrstuvwxyz".toList

/-- The number written with the given count of digits, the last one first. -/
def nameText : Nat → Nat → List Char
  | 0, _ => []
  | width + 1, n => nameDigits.getD (n % 36) '0' :: nameText width (n / 36)

def runName (n : Nat) : String := "run-" ++ String.ofList (nameText 6 n).reverse

def makeRunDirectory (m : Machine) (root : String) : Except DirectoryFault String × Machine :=
  let root := Files.join m.current.path root
  let candidates := (List.range (m.tree.entries.length + 1)).map fun n =>
    Files.join root (runName n)
  match candidates.find? fun path => !(m.tree.findNamed m.current path).isOk with
  | none => (.error ⟨.alreadyExists, root⟩, m)
  | some path =>
    match m.tree.makeDirectory m.current path with
    | .ok tree => (.ok path, { m with tree })
    | .error e => (.error ⟨e, path⟩, m)

def removeTree (m : Machine) (path : String) : Machine :=
  match m.tree.resolve false m.current path with
  | .ok target => { m with tree := m.tree.erase target.location }
  | .error _ => m

/-! ### Commands -/

/-- The number of bytes that an argument has to stay below. -/
def argumentBytesBound : Nat := 131072

/-- What runs when a command is given, or why nothing does. A name is looked for in the directories
that the environment lists; one that is longer than any name of a file is not. -/
def executionOf (m : Machine) (command : Command) : Except OsError Files.Execution :=
  let name := command.program
  let directories := (m.environment.lookup "PATH").getD Shell.defaultDirectories
  if (name :: command.arguments).any fun text => text.toList.contains '\x00' then
    .error .nulInArgument
  else if name.isEmpty then .error .notFound
  else if !name.toList.contains '/' && Tree.maxNameBytes < name.utf8ByteSize then
    .error .nameTooLong
  else
    match m.tree.called m.current directories name with
    | .error e => .error e
    | .ok (_, none) => .error .notAProgram
    | .ok (_, some x) =>
      if command.arguments.any fun text => argumentBytesBound ≤ text.utf8ByteSize then
        .error .argumentsTooLong
      else .ok (if x.front.isEmpty then { x with name } else x)

def shellFor (m : Machine) (program : String) (seconds : Nat) : Shell.State where
  tree := m.tree
  current := m.current
  place := Shell.octets m.current.path
  channels := #[.device .null, .sink [], .sink []]
  descriptors := [(0, 0), (1, 1), (2, 2)]
  name := Shell.octets program
  parameters := []
  bindings := (("HOME", "/root") :: m.environment).foldl (fun bindings (name, value) =>
    Shell.Variables.set bindings (Shell.octets name) (Shell.octets value)) []
  exported := "HOME".toList :: m.environment.map fun (name, _) => Shell.octets name
  limit := seconds * 1000000

def writtenTo (s : Shell.State) (index : Nat) : List UInt8 :=
  Shell.Octets.toBytes (((s.channels[index]?).map (·.written)).getD [])

/-- Runs a command for at most the given number of seconds. No time at all is too short for any. -/
def launch (m : Machine) (command : Command) (seconds : Nat) : Completion × Machine :=
  match m.executionOf command with
  | .error e => (.notStarted e, m)
  | .ok x =>
    if seconds = 0 then (.timedOut, m)
    else
      let (ending?, s) := Shell.runToEnd
        (Shell.runExecution x (command.arguments.map Shell.octets)) (m.shellFor x.name seconds)
      let after := { m with tree := s.tree }
      match ending? with
      | none => (.timedOut, after)
      | some (.killed _) => (.finished none (writtenTo s 1) (writtenTo s 2), after)
      | some (.exited status) => (.finished (some status) (writtenTo s 1) (writtenTo s 2), after)

def host : Host Machine where
  makeDirectories path m := m.change fun t current => t.makeDirectories current path
  makeRunDirectory root m := m.makeRunDirectory root
  removeTree path m := m.removeTree path
  writeFile path content m := m.writeFile path content
  removeFile path m := m.change fun t current => t.removeFile current path
  readText path m := (m.readText path, m)
  launch command seconds m := m.launch command seconds

end Machine

end ZoneGuard
