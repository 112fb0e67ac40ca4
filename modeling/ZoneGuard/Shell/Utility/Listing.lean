import ZoneGuard.Shell.Utility.Lines
import ZoneGuard.Shell.Utility.Permissions

/-!
# Listings

The utility `ls`, which lists files and what is in directories.
-/

namespace ZoneGuard.Shell

open Files (OsError Tree Entry)

/-- The names in a directory that are listed, in order, the hidden ones only on request. -/
def listedNames (t : Tree) (a : Arguments) (place : Files.Location) : List Octets :=
  let all := (t.names place).map octets
  let dots := if a.has 'a' then [['.'], ['.', '.']] else []
  let shown := if a.hasAny "aA" then all else all.filter fun name => name.head? != some '.'
  let sorted := (dots ++ shown).mergeSort Octets.isAtMost
  if a.has 'r' then sorted.reverse else sorted

/-- The mark behind a name for its kind, if that is asked for. -/
def kindMark (t : Tree) (a : Arguments) (entry : Entry) : Octets :=
  match entry with
  | .directory => if a.hasAny "Fp" then ['/'] else []
  | .link _ => if a.has 'F' && !a.has 'l' then ['@'] else []
  | .file number => if a.has 'F' && (t.file number).isExecutable then ['*'] else []
  | .program _ => if a.has 'F' then ['*'] else []
  | .device _ => []

def entryBlocks (t : Tree) : Entry → Nat
  | .file number => ((t.file number).content.length + 4095) / 4096 * 4
  | .directory => 4
  | .link _ | .device _ | .program _ => 0

def linkCount (t : Tree) (place : Files.Location) (entry : Entry) : Nat :=
  match entry with
  | .file number => t.entries.countP fun (_, other) => other == .file number
  | .directory =>
    2 + (t.names place).countP fun name => t.get? (place ++ [name]) == some .directory
  | .link _ | .device _ | .program _ => 1

/-- The lines for names with their entries. The long form has no true date. -/
def listedLines (t : Tree) (a : Arguments) (items : List (Octets × Files.Location × Entry)) :
    List Octets :=
  let widthOf (f : Files.Location × Entry → Nat) : Nat :=
    items.foldl (fun width (_, item) => max width (toString (f item)).length) 0
  let links (item : Files.Location × Entry) : Nat := linkCount t item.1 item.2
  let size (item : Files.Location × Entry) : Nat := entrySize t item.2
  items.map fun (name, place, entry) =>
    let name := name ++ kindMark t a entry
    let blocks := if a.has 's'
      then rightAligned (widthOf fun item => entryBlocks t item.2) (entryBlocks t entry) ++ [' ']
      else []
    let line := if !a.has 'l' then name
      else
        let goal := match entry with
          | .link path => octets (" -> " ++ path)
          | _ => []
        kindLetter entry :: octets (permissionText (entryMode t entry)) ++ [' ']
          ++ rightAligned (widthOf links) (links (place, entry)) ++ octets " root root "
          ++ rightAligned (widthOf size) (size (place, entry)) ++ octets " Jan  1 00:00 " ++ name
          ++ goal
    blocks ++ line

def directoryLines (t : Tree) (a : Arguments) (place : Files.Location) : List Octets :=
  let items := (listedNames t a place).filterMap fun name =>
    let inner := if name = ['.'] then place else if name = ['.', '.'] then place.dropLast
      else place ++ [Octets.text name]
    let entry? := if a.has 'L' then (t.find place (Octets.text name)).toOption else t.get? inner
    entry?.map fun entry => (name, inner, entry)
  let total := items.foldl (fun n (_, _, entry) => n + entryBlocks t entry) 0
  let header := if a.hasAny "ls" then [octets ("total " ++ toString total)] else []
  let lines := listedLines t a items
  header ++ if a.has 'm' && !lines.isEmpty then [[',', ' '].intercalate lines] else lines

/-- A directory and those in it with the paths that lead to them, outer ones first. Each level goes
down one directory. -/
def directoriesUnder (t : Tree) (a : Arguments) :
    Nat → Octets → Files.Location → List (Octets × Files.Location)
  | 0, _, _ => []
  | levels + 1, path, place =>
    let inner := (listedNames t a place).filter fun name =>
      name != ['.'] && name != ['.', '.']
        && t.get? (place ++ [Octets.text name]) == some .directory
    (path, place) :: inner.flatMap fun name =>
      directoriesUnder t a levels (pathIn path name) (place ++ [Octets.text name])

def ls (arguments : List Octets) : Act Nat :=
  let table : OptionTable :=
    { utility := "ls", letters := "aAbBcCdfFgGhHiklLmnNopqQrRsStuUvxXZ1", valued := "ITw"
      names := [("all", 'a'), ("almost-all", 'A'), ("directory", 'd'), ("recursive", 'R'),
        ("reverse", 'r'), ("classify", 'F'), ("color", 'G')]
      status := 2 }
  table.run arguments fun a => do
    let operands := if a.operands.isEmpty then [['.']] else a.operands.mergeSort Octets.isAtMost
    let s ← get
    let t := s.tree
    let followsLinks := !a.hasAny "ldF" || a.hasAny "LH"
    let located := operands.map fun path =>
      (path, t.locate followsLinks s.current (Octets.text path),
        t.locate false s.current (Octets.text path))
    let mut status := 0
    let mut files : List (Octets × Files.Location × Entry) := []
    let mut directories : List (Octets × Files.Location) := []
    for (path, followed, named) in located do
      match followed, named with
      | .ok (place, .directory), _ =>
        if a.has 'd' then files := files ++ [(path, place, .directory)]
        else directories := directories ++ [(path, place)]
      | .ok (place, entry), _ | .error _, .ok (place, entry) =>
        files := files ++ [(path, place, entry)]
      | .error e, .error _ =>
        reportPath "ls" "cannot access" path e
        status := 2
    for line in listedLines t a files do
      Act.printLine line
    let whole := if !a.has 'R' then directories
      else directories.flatMap fun (path, place) =>
        directoriesUnder t a (t.entries.length + 1) path place
    let isTitled := operands.length > 1 || a.has 'R'
    for ((path, place), i) in whole.zipIdx do
      if isTitled then
        let gap := if i = 0 && files.isEmpty then [] else ['\n']
        Act.print (gap ++ path ++ [':', '\n'])
      for line in directoryLines t a place do
        Act.printLine line
    return status

end ZoneGuard.Shell
