import ZoneGuard.Shell.Builtin.Options
import ZoneGuard.Shell.Utility.Permissions

/-!
# Places and permissions

The builtin utilities on the current directory, which a shell knows by the path on which it was
entered, and on the permissions of new files.
-/

namespace ZoneGuard.Shell

/-! ### Places -/

/-- The parts of a path with those left out that lead nowhere and those that another part leads back
from, the latest first. -/
def plainParts (entered : List Octets) : List Octets → List Octets
  | [] => entered
  | part :: parts =>
    if part.isEmpty || part = ['.'] then plainParts entered parts
    else if part = ['.', '.'] then plainParts (entered.drop 1) parts
    else plainParts (part :: entered) parts

/-- Whether a path begins with exactly two separators, which then stay. -/
def hasDoubleRoot (path : Octets) : Bool :=
  match path with
  | '/' :: '/' :: rest => rest.head? != some '/'
  | _ => false

/-- The path at which one arrives from a place by following a path name by name. -/
def placeAt (place path : Octets) : Octets :=
  let whole := if path.head? == some '/' then path else pathIn place path
  let parts := (plainParts [] (Text.splitAtEach '/' whole)).reverse
  (if hasDoubleRoot whole then ['/', '/'] else ['/']) ++ ['/'].intercalate parts

/-- Moves to a directory. The path is followed name by name, or as the files have it. -/
def enterDirectory (isPhysical : Bool) (path : Octets) : Act Bool := do
  let s ← get
  let goal := if isPhysical then path else placeAt s.place path
  match s.tree.locate true s.current (Octets.text goal) with
  | .ok (current, .directory) => do
    let place := if isPhysical then octets current.path else goal
    let old := s.place
    set { s with current, place }
    Act.setVariable "OLDPWD".toList old
    Act.setVariable "PWD".toList place
    modify fun s =>
      { s with exported := ["OLDPWD".toList, "PWD".toList] ++
          s.exported.filter fun name => name != "OLDPWD".toList && name != "PWD".toList }
    return true
  | _ => return false

/-- Whether a path is looked for in the directories of a list, which one that begins at a known
place is not. -/
def isSearched (path : Octets) : Bool :=
  match Text.splitAtEach '/' path with
  | [] :: _ :: _ | ['.'] :: _ | ['.', '.'] :: _ => false
  | _ => true

def changeDirectory (arguments : List Octets) : Act Nat :=
  withLetters "LP" arguments fun letters operands => do
    let s ← get
    let isPhysical := letters.getLast? == some 'P'
    let valueOf (name : String) : Octets := (s.bindings.lookup name.toList).getD []
    let goesBack := operands.head? == some ['-']
    let path := if goesBack then valueOf "OLDPWD" else operands.headD (valueOf "HOME")
    let path := if path.isEmpty then ['.'] else path
    let directories := match s.bindings.lookup "CDPATH".toList with
      | some list => if isSearched path then Text.splitAtEach ':' list else []
      | none => []
    let found? := directories.find? fun d =>
      s.tree.find s.current (Octets.text (if d.isEmpty then path else pathIn d path))
        |>.toOption.any (· == .directory)
    let (goal, isShown) := match found? with
      | some d => (if d.isEmpty then path else pathIn d path, !d.isEmpty)
      | none => (path, false)
    if ← enterDirectory isPhysical goal then do
      if goesBack || isShown then
        let s ← get
        Act.printLine s.place
      return 0
    else Act.abort ("can't cd to " ++ Octets.text path)

def workingDirectory (arguments : List Octets) : Act Nat :=
  withLetters "LP" arguments fun letters _ => do
    let s ← get
    Act.printLine (if letters.getLast? == some 'P' then octets s.current.path else s.place)
    return 0

/-! ### Permissions -/

/-- The permissions as clauses for the owner, the group and all others. -/
def clausesText (mode : Nat) : String :=
  let clause (letter : String) (shift : Nat) : String :=
    let bits := mode >>> shift
    letter ++ "=" ++ (if bits &&& 4 != 0 then "r" else "") ++ (if bits &&& 2 != 0 then "w" else "")
      ++ (if bits &&& 1 != 0 then "x" else "")
  ",".intercalate [clause "u" 6, clause "g" 3, clause "o" 0]

def fileMask (arguments : List Octets) : Act Nat :=
  withLetters "S" arguments fun letters operands => do
    let s ← get
    match operands with
    | [] => do
      let text := if letters.contains 'S' then clausesText (withoutBits 0o777 s.mask)
        else octalText 4 s.mask
      Act.printLine (octets text)
      return 0
    | text :: _ =>
      if text.head?.any Char.isDigit then do
        if !text.all fun c => '0' ≤ c && c ≤ '7' then
          Act.abort ("Illegal number: " ++ Octets.text text)
        set { s with mask := digitsValue 8 text % 0o1000 }
        return 0
      else
        match changedMode? 0 text (withoutBits 0o777 s.mask) with
        | none => Act.abort ("Illegal mode: " ++ Octets.text text)
        | some mode => do
          set { s with mask := withoutBits 0o777 mode }
          return 0

example : placeAt "/a/b".toList "../c/./d/".toList = "/a/c/d".toList := by decide

end ZoneGuard.Shell
