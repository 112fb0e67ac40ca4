import ZoneGuard.Shell.Expansion

/-!
# Redirections

Descriptors are connected to files, devices, texts of the script and to what other descriptors are
connected to. A path may also stand for a descriptor.
-/

namespace ZoneGuard.Shell

open Files (OsError)

/-- The reason for which a file could not be opened, as shells put it. -/
def openingReason (missing : String) : OsError → String
  | .notFound | .notADirectory => missing
  | e => e.reason

/-- Reports that a file could not be opened. -/
def reportUnread (path : Octets) (e : OsError) : Act Unit :=
  Act.complain ("cannot open " ++ Octets.text path ++ ": " ++ openingReason "No such file" e)

/-- Reports that a file could not be opened to be written. -/
def reportUnwritten (path : Octets) (e : OsError) : Act Unit :=
  Act.complain ("cannot create " ++ Octets.text path ++ ": "
    ++ openingReason "Directory nonexistent" e)

def connectChannel (descriptor : Nat) (c : Channel) : Act Bool := do
  Act.connect descriptor (← Act.openChannel c)
  return true

def duplicate (descriptor other : Nat) : Act Bool := do
  let s ← get
  match s.descriptors.lookup other with
  | some index => do
    Act.connect descriptor index
    return true
  | none => do
    Act.complain (toString other ++ ": Bad file descriptor")
    return false

inductive Opening where
  | toRead
  | toWrite
  | toAppend
  | toChange
deriving DecidableEq

def connectFile (descriptor number : Nat) (o : Opening) : Act Bool := do
  if o = .toWrite then modify fun s => { s with tree := s.tree.setContent number [] }
  connectChannel descriptor (.file number 0 (o == .toAppend))

/-- Connects a descriptor to what another one is connected to, opened anew if it is a file. -/
def reopen (descriptor : Nat) (path : Octets) (other : Nat) (o : Opening) : Act Bool := do
  match ← Act.channel? other with
  | some (_, .file number _ _) => connectFile descriptor number o
  | some (index, _) => do
    Act.connect descriptor index
    return true
  | none => do
    if o = .toRead then reportUnread path .notFound else reportUnwritten path .notFound
    return false

def openRead (descriptor : Nat) (path : Octets) : Act Bool := do
  let s ← get
  match s.tree.find s.current (Octets.text path) with
  | .ok (.file number) => connectFile descriptor number .toRead
  | .ok .directory => connectChannel descriptor .directory
  | .ok (.device .terminal) => do
    reportUnread path .noDevice
    return false
  | .ok (.device d) => connectChannel descriptor (.device d)
  | .ok (.link _) | .ok (.program _) => connectChannel descriptor (.source [])
  | .error e => do
    reportUnread path e
    return false

/-- Connects a descriptor to a file that is written, and made if there is none. -/
def openWrite (descriptor : Nat) (path : Octets) (o : Opening) : Act Bool := do
  let mode ← Act.granted 0o666
  let s ← get
  match s.tree.openFile mode s.current (Octets.text path) with
  | .ok (entry, tree) => do
    set { s with tree }
    match entry with
    | .file number => connectFile descriptor number o
    | .device d => connectChannel descriptor (.device d)
    | _ => connectChannel descriptor .directory
  | .error e => do
    reportUnwritten path e
    return false

/-- Whether a path leads to a regular file, which is not to be emptied by accident. -/
def isKept (path : Octets) : Act Bool := do
  let s ← get
  match ← Act.find? path with
  | some (.file _) => return s.has 'C'
  | _ => return false

def openPath (descriptor : Nat) (path : Octets) (o : Opening) : Act Bool :=
  match descriptorPath? path with
  | some other => reopen descriptor path other o
  | none => if o = .toRead then openRead descriptor path else openWrite descriptor path o

def redirect (run : List Command → Act Octets) : Redirect → Act Bool
  | .mk descriptor kind target => do
    let text ← wordText run target
    match kind with
    | .document index => do
      let s ← get
      connectChannel descriptor (.source (← wordText run (s.documents.getD index [])))
    | .duplicate =>
      match text with
      | ['-'] => do
        Act.disconnect descriptor
        return true
      | [c] =>
        if c.isDigit then duplicate descriptor (digitsValue 10 [c])
        else Act.abort "Syntax error: Bad fd number"
      | _ => Act.abort "Syntax error: Bad fd number"
    | .read => openPath descriptor text .toRead
    | .write always => do
      if !always && (← isKept text) then do
        reportUnwritten text .alreadyExists
        return false
      else openPath descriptor text .toWrite
    | .append => openPath descriptor text .toAppend
    | .readWrite => openPath descriptor text .toChange

/-- Carries out redirections up to the first that fails. -/
def redirectAll (run : List Command → Act Octets) : List Redirect → Act Bool
  | [] => return true
  | r :: rs => do
    if ← redirect run r then redirectAll run rs else return false

end ZoneGuard.Shell
