import ZoneGuard.Files.Path
import ZoneGuard.Text.Utf8

/-!
# File trees

Files, directories, links and devices under one root. A path is resolved from a current directory,
one component after the other: what stands before a component has to be a directory, and a link
stands for the path that it holds. A file has a number, so that several names can lead to it and so
that it can be used when no name leads to it any more. The operations fail with the reasons that an
operating system gives.
-/

namespace ZoneGuard.Files

/-- Why an operation on files or programs failed. -/
inductive OsError where
  | notFound
  | noDevice
  | argumentsTooLong
  | notAProgram
  | permissionDenied
  | alreadyExists
  | notADirectory
  | isADirectory
  | invalidArgument
  | noSpace
  | nameTooLong
  | notEmpty
  | tooManyLinks
  | badDescriptor
  /-- The bytes of a file are no text. -/
  | invalidText
  /-- A path holds a character that would end it. -/
  | nulInPath
  /-- The name or an argument of a program holds a character that would end it. -/
  | nulInArgument
deriving DecidableEq, Repr

namespace OsError

def reason : OsError → String
  | .notFound => "No such file or directory"
  | .noDevice => "No such device or address"
  | .argumentsTooLong => "Argument list too long"
  | .notAProgram => "Exec format error"
  | .permissionDenied => "Permission denied"
  | .alreadyExists => "File exists"
  | .notADirectory => "Not a directory"
  | .isADirectory => "Is a directory"
  | .invalidArgument => "Invalid argument"
  | .noSpace => "No space left on device"
  | .nameTooLong => "File name too long"
  | .notEmpty => "Directory not empty"
  | .tooManyLinks => "Too many levels of symbolic links"
  | .badDescriptor => "Bad file descriptor"
  | .invalidText => "stream did not contain valid UTF-8"
  | .nulInPath => "file name contained an unexpected NUL byte"
  | .nulInArgument => "nul byte found in provided data"

def number? : OsError → Option Nat
  | .notFound => some 2
  | .noDevice => some 6
  | .argumentsTooLong => some 7
  | .notAProgram => some 8
  | .badDescriptor => some 9
  | .permissionDenied => some 13
  | .alreadyExists => some 17
  | .notADirectory => some 20
  | .isADirectory => some 21
  | .invalidArgument => some 22
  | .noSpace => some 28
  | .nameTooLong => some 36
  | .notEmpty => some 39
  | .tooManyLinks => some 40
  | .invalidText | .nulInPath | .nulInArgument => none

def message (e : OsError) : String :=
  match e.number? with
  | some n => e.reason ++ " (os error " ++ toString n ++ ")"
  | none => e.reason

end OsError

abbrev Location := List String

def Location.path (l : Location) : String := "/" ++ "/".intercalate l

/-- What a device gives to its readers and does to its writers. -/
inductive Device where
  /-- Is empty, and forgets what is written. -/
  | null
  /-- Has zeros without end, and forgets what is written. -/
  | zero
  /-- Has zeros without end, and no room for what is written. -/
  | full
  /-- Cannot be opened, because there is no terminal. -/
  | terminal
deriving DecidableEq, Repr

/-- A regular file. -/
structure File where
  content : List UInt8 := []
  /-- The permissions: three bits each for the owner, the group and all others. -/
  mode : Nat := 0o644
deriving DecidableEq

def File.isExecutable (f : File) : Bool := f.mode &&& 0o111 != 0

/-- An entry of a directory. -/
inductive Entry where
  | directory
  /-- The regular file with the number. -/
  | file (number : Nat)
  /-- Stands for a path, which is seen from the directory of the link. -/
  | link (path : String)
  | device (d : Device)
  /-- A program that is known by its name. -/
  | program (name : String)
deriving DecidableEq

/-- The entries under the root, each with its location, and the files by their numbers. -/
structure Tree where
  entries : List (Location × Entry) := []
  numbered : Array File := #[]

/-- Where a path leads, and whether it asks for a directory by a separator at its end. -/
structure Target where
  location : Location
  asDirectory : Bool

namespace Tree

/-! ### Entries -/

/-- The entry at a location. The root is a directory. -/
def get? (t : Tree) (place : Location) : Option Entry :=
  if place.isEmpty then some .directory else t.entries.lookup place

def set (t : Tree) (place : Location) (e : Entry) : Tree :=
  let entries :=
    if t.entries.any (·.1 == place) then
      t.entries.map fun (l, old) => if l == place then (l, e) else (l, old)
    else t.entries ++ [(place, e)]
  { t with entries }

/-- The tree without a location and what is under it. -/
def erase (t : Tree) (place : Location) : Tree :=
  { t with entries := t.entries.filter fun (l, _) => !place.isPrefixOf l }

/-- The tree with everything at and under the location `old` at `new` instead. -/
def relocate (t : Tree) (old new : Location) : Tree :=
  let kept := t.entries.filter fun (l, _) => old.isPrefixOf l || !new.isPrefixOf l
  { t with entries := kept.map fun (l, e) =>
      if old.isPrefixOf l then (new ++ l.drop old.length, e) else (l, e) }

def names (t : Tree) (place : Location) : List String :=
  t.entries.filterMap fun (l, _) =>
    if l.dropLast == place then l.getLast? else none

/-! ### Files by number -/

def file (t : Tree) (number : Nat) : File := t.numbered[number]?.getD {}

def modify (t : Tree) (number : Nat) (f : File → File) : Tree :=
  { t with numbered := t.numbered.setIfInBounds number (f (t.file number)) }

def setContent (t : Tree) (number : Nat) (content : List UInt8) : Tree :=
  t.modify number fun f => { f with content }

def add (t : Tree) (place : Location) (f : File) : Tree :=
  { t with numbered := t.numbered.push f }.set place (.file t.numbered.size)

/-- The tree with everything at and under the location `old` also at `new`, where files are new
ones. -/
def copy (t : Tree) (old new : Location) : Tree :=
  t.entries.foldl (fun copied (l, e) =>
    if !old.isPrefixOf l then copied
    else
      let goal := new ++ l.drop old.length
      match e with
      | .file number => copied.add goal (t.file number)
      | e => copied.set goal e) t

/-! ### Paths -/

def maxNameBytes : Nat := 255

/-- The number of bytes that a path has to stay below. -/
def pathBytesBound : Nat := 4096

/-- The greatest number of links on the way of one path. -/
def maxLinks : Nat := 40

def parts (path : String) : List String :=
  ((Text.splitAtEach '/' path.toList).filter fun part => !part.isEmpty).map String.ofList

/-- Whether the path asks for a directory by a separator at its end. -/
def asksForDirectory (path : String) : Bool := path.toList.getLast? == some '/'

/-- The location that the parts of a path lead to, on a way with at most so many links. The last
part need not exist; if it is a link, it is followed or not. -/
def walk (t : Tree) (followsLast : Bool) :
    Nat → Location → List String → Except OsError Location
  | _, start, [] => .ok start
  | links, start, part :: rest =>
    if part = "." then t.walk followsLast links start rest
    else if part = ".." then t.walk followsLast links start.dropLast rest
    else if maxNameBytes < part.utf8ByteSize then .error .nameTooLong
    else
      match t.get? (start ++ [part]) with
      | some .directory => t.walk followsLast links (start ++ [part]) rest
      | some (.link path) =>
        if rest.isEmpty && !followsLast then .ok (start ++ [part])
        else
          match links with
          | 0 => .error .tooManyLinks
          | links + 1 =>
            t.walk followsLast links (if isAbsolute path then [] else start) (parts path ++ rest)
      | some _ => if rest.isEmpty then .ok (start ++ [part]) else .error .notADirectory
      | none =>
        if rest.isEmpty && t.get? start = some .directory then .ok (start ++ [part])
        else .error .notFound
  termination_by links _ parts => (links, parts.length)

/-- Why a path cannot lead anywhere, if that is so. -/
def pathFault? (path : String) : Option OsError :=
  if path.toList.contains '\x00' then some .nulInPath
  else if pathBytesBound ≤ path.utf8ByteSize then some .nameTooLong
  else none

/-- Where a path leads from the current directory. A link at its end is followed or not. -/
def resolve (t : Tree) (followsLast : Bool) (current : Location) (path : String) :
    Except OsError Target :=
  match pathFault? path with
  | some e => .error e
  | none =>
    if path.isEmpty then .error .notFound
    else
      match t.walk followsLast maxLinks (if isAbsolute path then [] else current) (parts path) with
      | .error e => .error e
      | .ok location => .ok ⟨location, asksForDirectory path⟩

def locate (t : Tree) (followsLast : Bool) (current : Location) (path : String) :
    Except OsError (Location × Entry) :=
  match t.resolve (followsLast || asksForDirectory path) current path with
  | .error e => .error e
  | .ok target =>
    match t.get? target.location with
    | none => .error .notFound
    | some .directory => .ok (target.location, .directory)
    | some e => if target.asDirectory then .error .notADirectory else .ok (target.location, e)

def find (t : Tree) (current : Location) (path : String) : Except OsError Entry :=
  (t.locate true current path).map (·.2)

def findNamed (t : Tree) (current : Location) (path : String) : Except OsError Entry :=
  (t.locate false current path).map (·.2)

/-- The regular files with their contents, also those that links stand for. -/
def files (t : Tree) : List (Location × List UInt8) :=
  t.entries.filterMap fun (l, e) =>
    match e with
    | .file number => some (l, (t.file number).content)
    | .link _ =>
      match t.find [] (Location.path l) with
      | .ok (.file number) => some (l, (t.file number).content)
      | _ => none
    | .directory | .device _ | .program _ => none

/-! ### Reading and writing -/

/-- The content of a file. What devices have without end cannot be read as a whole, and counts as
nothing. -/
def read (t : Tree) (current : Location) (path : String) : Except OsError (List UInt8) :=
  match t.find current path with
  | .error e => .error e
  | .ok .directory => .error .isADirectory
  | .ok (.file number) => .ok (t.file number).content
  | .ok (.device .terminal) => .error .noDevice
  | .ok (.device _) | .ok (.link _) | .ok (.program _) => .ok []

def readText (t : Tree) (current : Location) (path : String) : Except OsError String :=
  match t.read current path with
  | .error e => .error e
  | .ok content =>
    match Text.decode? content with
    | some text => .ok text
    | none => .error .invalidText

/-- Whether nothing can be made at a location, because the system itself says what is there. -/
def isReserved (place : Location) : Bool := place.head? == some "proc"

/-- The file or device that is to be written. A file that is not there is made. -/
def openFile (t : Tree) (mode : Nat) (current : Location) (path : String) :
    Except OsError (Entry × Tree) :=
  match t.resolve true current path with
  | .error e => .error e
  | .ok target =>
    if target.asDirectory then .error .isADirectory
    else
      match t.get? target.location with
      | none =>
        if isReserved target.location then .error .notFound
        else .ok (.file t.numbered.size, t.add target.location { mode })
      | some .directory => .error .isADirectory
      | some (.device .terminal) => .error .noDevice
      | some (.program _) => .error .permissionDenied
      | some e => .ok (e, t)

/-- Writes a file, which is made if there is none. -/
def write (t : Tree) (current : Location) (path : String) (content : List UInt8) :
    Except OsError Tree :=
  match t.openFile 0o644 current path with
  | .error e => .error e
  | .ok (.file number, t) => .ok (t.setContent number content)
  | .ok (.device .full, t) => if content.isEmpty then .ok t else .error .noSpace
  | .ok (_, t) => .ok t

def removeFile (t : Tree) (current : Location) (path : String) : Except OsError Tree :=
  match t.resolve false current path with
  | .error e => .error e
  | .ok target =>
    match t.get? target.location with
    | none => .error .notFound
    | some .directory => .error .isADirectory
    | some _ => if target.asDirectory then .error .notADirectory else .ok (t.erase target.location)

def makeLink (t : Tree) (current : Location) (path goal : String) : Except OsError Tree :=
  if goal.isEmpty then .error .notFound
  else
    match t.resolve false current path with
    | .error e => .error e
    | .ok target =>
      match t.get? target.location with
      | some _ => .error .alreadyExists
      | none =>
        if target.asDirectory then .error .notFound
        else .ok (t.set target.location (.link goal))

/-! ### Directories -/

def makeDirectory (t : Tree) (current : Location) (path : String) : Except OsError Tree :=
  match t.resolve false current path with
  | .error e => .error e
  | .ok target =>
    match t.get? target.location with
    | some _ => .error .alreadyExists
    | none =>
      if isReserved target.location then .error .notFound
      else .ok (t.set target.location .directory)

/-- Removes an empty directory, which its path has to name. -/
def removeDirectory (t : Tree) (current : Location) (path : String) : Except OsError Tree :=
  match t.resolve false current path with
  | .error e => .error e
  | .ok target =>
    match t.get? target.location, (parts path).getLast? with
    | none, _ => .error .notFound
    | some .directory, some "." => .error .invalidArgument
    | some .directory, some ".." => .error .notEmpty
    | some .directory, _ =>
      if (t.names target.location).isEmpty then .ok (t.erase target.location)
      else .error .notEmpty
    | some _, _ => .error .notADirectory

/-- Makes the directories that the parts of a path lead through. -/
def makeAll (t : Tree) (start : Location) : List String → Except OsError Tree
  | [] => .ok t
  | part :: rest =>
    match t.walk true maxLinks start [part] with
    | .error .notFound =>
      .error (if t.get? start = some .directory then .alreadyExists else .notFound)
    | .error e => .error e
    | .ok place =>
      match t.get? place with
      | some .directory => t.makeAll place rest
      | some _ => .error (if rest.isEmpty then .alreadyExists else .notADirectory)
      | none =>
        if isReserved place then .error .notFound
        else if place = start ++ [part] then (t.set place .directory).makeAll place rest
        else .error .alreadyExists

/-- Makes a directory and the ones on the way to it, as far as they are missing. -/
def makeDirectories (t : Tree) (current : Location) (path : String) : Except OsError Tree :=
  match pathFault? path with
  | some e => .error e
  | none => t.makeAll (if isAbsolute path then [] else current) (parts path)

end Tree

example : Tree.pathFault? "a\x00b" = some .nulInPath := by decide

end ZoneGuard.Files
