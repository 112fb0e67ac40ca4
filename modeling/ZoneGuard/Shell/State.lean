import ZoneGuard.Files.Execution
import ZoneGuard.Shell.Arithmetic
import ZoneGuard.Shell.Word

/-!
# The state of a shell

What a running script can see and change: the files, its descriptors, its variables, the jobs that
it has started and the time it has taken. Steps of a script give a status or stop the script.
Like the whole shell it is only there for the program that runs.
-/

namespace ZoneGuard.Shell

open Files (Tree OsError)

inductive Channel where
  /-- What is left to read. -/
  | source (rest : Octets)
  /-- What was written, the latest part first. -/
  | sink (parts : List Octets)
  /-- A file, and the place in it at which it is read or written next. Writing may always go to the
  end. -/
  | file (number place : Nat) (appends : Bool)
  | directory
  | device (d : Files.Device)

def Channel.written : Channel → Octets
  | .sink parts => parts.reverse.flatten
  | _ => []

/-- The process number of the first shell. -/
def processNumber : Nat := 4711

/-- What a shell has for itself. A shell that it starts begins with a copy. -/
structure Scope where
  current : Files.Location
  /-- The path on which the current directory was entered. -/
  place : Octets
  descriptors : List (Nat × Nat)
  /-- The name that messages begin with. -/
  name : Octets
  /-- The utility that messages are about, or in which a text is evaluated. -/
  utility? : Option Octets := none
  parameters : List Octets
  bindings : Variables := []
  /-- The variables that programs get. -/
  exported : List Octets := []
  /-- The variables that cannot be set. -/
  constants : List Octets := []
  functions : List (Octets × Command) := []
  /-- The paths at which programs have been found by name. -/
  found : List (Octets × Octets) := []
  /-- The texts that stand in the scripts read so far. -/
  documents : List Word := []
  /-- The scripts to run on signals, and at the end under the number zero. -/
  traps : List (Nat × Octets) := []
  /-- The options that are on, by their letters. -/
  options : Octets := []
  /-- The permissions that new files do not get. -/
  mask : Nat := 0o022
  status : Nat := 0
  /-- The status of the latest script whose output was put into the current command. -/
  outputStatus? : Option Nat := none
  /-- The line of the command that runs. -/
  line : Nat := 1
  /-- How many loops are open. -/
  loops : Nat := 0
  /-- How many functions run. -/
  calls : Nat := 0
  /-- In a function, what the variables that it has made its own held before. -/
  hidden? : Option (List (Octets × Option Octets)) := none
  /-- The process number of the shell. -/
  number : Nat := processNumber
  /-- The process number that scripts see: that of the shell of which this one is a copy. -/
  shell : Nat := processNumber
  /-- The processes that this one comes from, the nearest first. -/
  ancestors : List Nat := []
  /-- The process number of the latest job. -/
  latestJob? : Option Nat := none
  /-- The place of the next argument to be read as options, and how many letters of the one before
  have been read. -/
  nextOption : Nat := 1
  lettersRead : Nat := 0

inductive Ending where
  | exited (status : Nat)
  | killed (signal : Nat)
deriving DecidableEq

def Ending.status : Ending → Nat
  | .exited status => status
  | .killed signal => 128 + signal

/-- A command that runs in the background. It is carried out when the time has come at which it
ends, as if all of it happened then. -/
structure Job where
  number : Nat
  /-- The shell that started it. -/
  owner : Nat
  body : Command
  scope : Scope
  /-- When it began, and when it will have ended as far as can be told. -/
  start : Nat
  finish : Nat
  /-- The channels that it keeps open. -/
  channels : List Nat
  /-- How it ended, once it has been carried out. -/
  ending? : Option Ending := none

def Job.isPending (j : Job) : Bool := j.ending?.isNone

/-- The state of a shell: what it has for itself, and what it shares with all others. -/
structure State extends Scope where
  tree : Tree
  /-- The channels opened so far; descriptors refer to them by position. -/
  channels : Array Channel
  /-- The jobs, in the order of their beginnings. -/
  jobs : List Job := []
  /-- How many processes there have been. -/
  processes : Nat := 0
  /-- The signals that have been sent to processes that wait for others, in order. -/
  signals : List (Nat × Nat) := []
  /-- Why the current utility could not write, if that has happened. -/
  writeFault? : Option OsError := none
  /-- The time passed, and the time at which the shell is ended, in microseconds. -/
  clock : Nat := 0
  limit : Nat

def descriptorPath? (path : Octets) : Option Nat :=
  match String.ofList path with
  | "/dev/stdin" => some 0
  | "/dev/stdout" => some 1
  | "/dev/stderr" => some 2
  | _ =>
    ["/dev/fd/", "/proc/self/fd/"].findSome? fun beginning =>
      let digits := path.drop beginning.length
      if beginning.toList.isPrefixOf path && !digits.isEmpty && digits.all Char.isDigit
      then some (digitsValue 10 digits) else none

def Scope.has (s : Scope) (letter : Char) : Bool := s.options.contains letter

/-- Why a script does not go on with its next command. -/
inductive Stop where
  /-- Leaves loops, or goes on with the next round of the last of them. -/
  | leave (loops : Nat)
  | again (loops : Nat)
  | done (status : Nat)
  | exit (status : Nat)
  /-- A fault that ends the shell if it is not in a utility of the common kind. -/
  | failed
  | killed (signal : Nat)
  | timedOut

/-- How a process ends whose steps came to this result. It does not end if the time was up. -/
def endingOf? : Except Stop Nat → Option Ending
  | .ok status | .error (.exit status) | .error (.done status) => some (.exited (status % 256))
  | .error (.leave _) | .error (.again _) => some (.exited 0)
  | .error .failed => some (.exited 2)
  | .error (.killed signal) => some (.killed signal)
  | .error .timedOut => none

abbrev Act := ExceptT Stop (StateM State)

namespace Act

/-- Lets time pass, at most up to the limit. -/
def wait (microseconds : Nat) : Act Unit := do
  let s ← get
  set { s with clock := s.clock + microseconds }
  if s.limit ≤ s.clock + microseconds then throw .timedOut

/-! ### Channels -/

def openChannel (c : Channel) : Act Nat := do
  let s ← get
  set { s with channels := s.channels.push c }
  return s.channels.size

def channel? (descriptor : Nat) : Act (Option (Nat × Channel)) := do
  let s ← get
  match s.descriptors.lookup descriptor with
  | none => return none
  | some index => return (s.channels[index]?).map (index, ·)

def setChannel (index : Nat) (c : Channel) : Act Unit :=
  modify fun s => { s with channels := s.channels.setIfInBounds index c }

def connect (descriptor index : Nat) : Act Unit :=
  modify fun s =>
    { s with descriptors := (descriptor, index) :: s.descriptors.filter (·.1 != descriptor) }

def disconnect (descriptor : Nat) : Act Unit :=
  modify fun s => { s with descriptors := s.descriptors.filter (·.1 != descriptor) }

/-- The content with bytes written at a place. A gap before the place is filled with zeros. -/
def overwritten (content : List UInt8) (place : Nat) (bytes : List UInt8) : List UInt8 :=
  let before := content.take place
  before ++ List.replicate (place - before.length) 0 ++ bytes
    ++ content.drop (place + bytes.length)

def write (descriptor : Nat) (text : Octets) : Act Unit := do
  let fail (e : OsError) : Act Unit :=
    modify fun s => { s with writeFault? := s.writeFault?.or (some e) }
  if !text.isEmpty then
    match ← channel? descriptor with
    | some (index, .sink parts) => setChannel index (.sink (text :: parts))
    | some (index, .file number place appends) => do
      let s ← get
      let content := (s.tree.file number).content
      let place := if appends then content.length else place
      let tree := s.tree.setContent number (overwritten content place (Octets.toBytes text))
      set { s with tree }
      setChannel index (.file number (place + text.length) appends)
    | some (_, .device .full) => fail .noSpace
    | some (_, .device _) => return ()
    | some (_, .source _) | some (_, .directory) | none => fail .badDescriptor

/-- What of an endless device is read at most, which is more than a pipe holds. -/
def endless : Octets := List.replicate 131072 '\x00'

def remaining (descriptor : Nat) : Act Octets := do
  match ← channel? descriptor with
  | some (_, .source rest) => return rest
  | some (_, .file number place _) => do
    let s ← get
    return Octets.ofBytes ((s.tree.file number).content.drop place)
  | some (_, .device .zero) | some (_, .device .full) => return endless
  | _ => return []

/-- Passes over so many octets of what a descriptor has left to read. -/
def skip (descriptor count : Nat) : Act Unit := do
  match ← channel? descriptor with
  | some (index, .source rest) => setChannel index (.source (rest.drop count))
  | some (index, .file number place appends) =>
    setChannel index (.file number (place + count) appends)
  | _ => return ()

def readAll (descriptor : Nat) : Act Octets := do
  let rest ← remaining descriptor
  skip descriptor rest.length
  return rest

def print (text : Octets) : Act Unit := write 1 text

def printLine (text : Octets) : Act Unit := write 1 (text ++ ['\n'])

/-- Runs a step without regard to whether it could write. -/
def withoutFaults (act : Act Unit) : Act Unit := do
  let s ← get
  act
  modify fun after => { after with writeFault? := s.writeFault? }

def warn (text : String) : Act Unit := withoutFaults (write 2 (octets text ++ ['\n']))

def complain (text : String) : Act Unit := do
  let s ← get
  let about := match s.utility? with
    | some utility => Octets.text utility ++ ": "
    | none => ""
  withoutFaults
    (write 2 (s.name ++ octets (": " ++ toString s.line ++ ": " ++ about ++ text ++ "\n")))

/-- Reports a fault that ends the shell, if it is not in a utility of the common kind. -/
def abort {α : Type} (text : String) : Act α := do
  complain text
  throw .failed

/-- Runs a utility of the common kind, where a fault gives a status. -/
def guarded (act : Act Nat) : Act Nat := fun s =>
  match act s with
  | (.error .failed, after) => (.ok 2, after)
  | result => result

/-! ### Scopes -/

/-- Runs a step and then restores the descriptors, whatever became of it. -/
def withDescriptors {α : Type} (act : Act α) : Act α := fun s =>
  let (result, after) := act s
  (result, { after with descriptors := s.descriptors })

/-- Runs a step with a changed scope and then restores it, whatever became of it. -/
def inScope {α : Type} (change : Scope → Scope) (act : Act α) : Act α := fun s =>
  let (result, after) := act { s with toScope := change s.toScope }
  (result, { after with toScope := s.toScope })

def about {α : Type} (utility : Octets) (act : Act α) : Act α := fun s =>
  let (result, after) := act { s with utility? := some utility }
  (result, { after with utility? := s.utility? })

/-- Runs a step as the process with the number, which leaves behind what all processes share. -/
def asProcess (number : Nat) (act : Act Nat) : Act Ending := fun s =>
  let (result, after) := act { s with number, ancestors := s.number :: s.ancestors }
  let restored := { after with toScope := s.toScope }
  match endingOf? result with
  | some ending => (.ok ending, restored)
  | none => (.error .timedOut, restored)

def newProcess : Act Nat := do
  let s ← get
  set { s with processes := s.processes + 1 }
  return processNumber + s.processes + 1

def isolate (act : Act Nat) : Act Ending := do
  asProcess (← newProcess) act

/-! ### Variables -/

def valueOf? (name : Octets) : Act (Option Octets) := do
  let s ← get
  return s.bindings.lookup name

/-- Sets a variable, which has to be no constant. Setting the place of the next option begins with
its argument anew. -/
def setVariable (name value : Octets) : Act Unit := do
  let s ← get
  if s.constants.contains name then abort (Octets.text name ++ ": is read only")
  else
    let exported := if s.has 'a' && !s.exported.contains name then name :: s.exported
      else s.exported
    let found := if name = "PATH".toList then [] else s.found
    set { s with bindings := s.bindings.set name value, exported, found }
    if name = "OPTIND".toList then
      let isNumber := !value.isEmpty && value.all Char.isDigit
      modify fun s =>
        { s with nextOption := if isNumber then digitsValue 10 value else 1, lettersRead := 0 }

/-! ### Files -/

def isStandardInput (path : Octets) : Bool := path == ['-'] || descriptorPath? path == some 0

/-- The content that an operand of a utility stands for. -/
def readOperand (path : Octets) : Act (Except OsError Octets) := do
  if isStandardInput path then
    match ← channel? 0 with
    | none => return .error .badDescriptor
    | some (_, .directory) => return .error .isADirectory
    | some _ => return .ok (← readAll 0)
  else
    let s ← get
    match s.tree.find s.current (Octets.text path) with
    | .ok (.device .zero) | .ok (.device .full) => return .ok endless
    | _ => return (s.tree.read s.current (Octets.text path)).map Octets.ofBytes

/-- Changes the files; the answer is the reason for a failure. -/
def changeTree (change : Tree → Files.Location → Except OsError Tree) : Act (Option OsError) := do
  let s ← get
  match change s.tree s.current with
  | .ok tree =>
    set { s with tree }
    return none
  | .error e => return some e

/-- The permissions that a file gets which is made with the given ones. -/
def granted (mode : Nat) : Act Nat := do
  let s ← get
  return mode - (mode &&& s.mask)

/-- Writes a file, which is made if there is none. -/
def writeFile (path : Octets) (text : Octets) (appends : Bool) : Act (Option OsError) := do
  match descriptorPath? path with
  | some descriptor => do
    write descriptor text
    return none
  | none => do
    let mode ← granted 0o666
    changeTree fun t current => do
      match ← t.openFile mode current (Octets.text path) with
      | (.file number, t) =>
        let old := if appends then (t.file number).content else []
        return t.setContent number (old ++ Octets.toBytes text)
      | (.device .full, t) => if text.isEmpty then return t else .error .noSpace
      | (_, t) => return t

def find? (path : Octets) : Act (Option Files.Entry) := do
  let s ← get
  return (s.tree.find s.current (Octets.text path)).toOption

def findNamed? (path : Octets) : Act (Option Files.Entry) := do
  let s ← get
  return (s.tree.findNamed s.current (Octets.text path)).toOption

end Act

end ZoneGuard.Shell
