import ZoneGuard.Shell.Utility.Paths

/-!
# Permissions

Changes of permissions as numbers and as clauses of letters, the utilities that make them, and the
utility that tells them.
-/

namespace ZoneGuard.Shell

open Files (OsError Tree Entry)

/-! ### Changes -/

def withoutBits (mode mask : Nat) : Nat := mode - (mode &&& mask)

/-- How many bits the permissions of a class of users are away from the end. -/
def classShift? (c : Char) : Option Nat :=
  match c with
  | 'u' => some 6
  | 'g' => some 3
  | 'o' => some 0
  | _ => none

def classesOf (letters : Octets) : List Char :=
  if letters.isEmpty || letters.contains 'a' then ['u', 'g', 'o'] else letters

/-- The bits that a letter of a permission stands for in the classes. -/
def permissionBits (mode : Nat) (classes : List Char) (letter : Char) : Nat :=
  let each (bits : Nat) : Nat :=
    classes.foldl (fun all c => all ||| bits <<< (classShift? c).getD 0) 0
  match letter with
  | 'r' => each 4
  | 'w' => each 2
  | 'x' => each 1
  | 'X' => if mode &&& 0o111 != 0 then each 1 else 0
  | 's' =>
    (if classes.contains 'u' then 0o4000 else 0) ||| (if classes.contains 'g' then 0o2000 else 0)
  | 't' => 0o1000
  | c => each (((mode >>> (classShift? c).getD 0) &&& 7))

def isPermission (c : Char) : Bool := "rwxXstugo".toList.contains c

/-- The permissions changed by what follows the classes of a clause: operators, each with
permissions. Without classes the bits of the mask stay as they are. Each step takes an operator. -/
def applyOperators (mask : Nat) (letters : Octets) : Nat → Octets → Nat → Option Nat
  | 0, _, _ => none
  | _, [], mode => some mode
  | steps + 1, op :: rest, mode =>
    let named := rest.takeWhile isPermission
    let rest := rest.drop named.length
    let kept := if letters.isEmpty then mask else 0
    let classes := classesOf letters
    let bits := withoutBits
      (named.foldl (fun bits c => bits ||| permissionBits mode classes c) 0) kept
    let all := withoutBits ("rwxs".toList.foldl
      (fun bits c => bits ||| permissionBits mode classes c) 0) kept
    match op with
    | '+' => applyOperators mask letters steps rest (mode ||| bits)
    | '-' => applyOperators mask letters steps rest (withoutBits mode bits)
    | '=' => applyOperators mask letters steps rest (withoutBits mode all ||| bits)
    | _ => none

/-- The permissions changed by a text: a number in base eight, or clauses between commas. -/
def changedMode? (mask : Nat) (text : Octets) (mode : Nat) : Option Nat :=
  if !text.isEmpty && text.all fun c => '0' ≤ c && c ≤ '7' then
    let n := digitsValue 8 text
    if n ≤ 0o7777 then some n else none
  else
    (Text.splitAtEach ',' text).foldlM (fun mode clause =>
      let letters := clause.takeWhile "ugoa".toList.contains
      let operators := clause.drop letters.length
      if operators.isEmpty then none
      else applyOperators mask letters (operators.length + 1) operators mode) mode

/-! ### Texts -/

def permissionText (mode : Nat) : String :=
  let part (shift : Nat) (special : Nat) (letter : Char) : List Char :=
    let bits := mode >>> shift
    let marked := mode &&& special != 0
    let x := bits &&& 1 != 0
    [if bits &&& 4 != 0 then 'r' else '-', if bits &&& 2 != 0 then 'w' else '-',
      if marked then (if x then letter else letter.toUpper) else if x then 'x' else '-']
  String.ofList (part 6 0o4000 's' ++ part 3 0o2000 's' ++ part 0 0o1000 't')

/-- A number in base eight with at least so many digits. -/
def octalText (width n : Nat) : String :=
  let digits := Nat.toDigits 8 n
  String.ofList (List.replicate (width - digits.length) '0' ++ digits)

/-- The permissions of an entry. Directories and programs have fixed ones. -/
def entryMode (t : Tree) : Entry → Nat
  | .file number => (t.file number).mode
  | .directory | .program _ => 0o755
  | .device _ => 0o666
  | .link _ => 0o777

example : changedMode? 0o022 "u+x,g=rx,o-r".toList 0o600 = some 0o750 := by decide +kernel

example : permissionText 0o4755 = "rwsr-xr-x" := by decide +kernel

/-! ### Utilities -/

def changePath (a : Arguments) (change : Nat → Option Nat) (path : Octets) : Act Nat := do
  let s ← get
  match s.tree.locate true s.current (Octets.text path) with
  | .error e =>
    match ← Act.findNamed? path with
    | some (.link _) => do
      Act.warn ("chmod: cannot operate on dangling symlink " ++ quotedPath path)
      return 1
    | _ => do
      if !a.has 'f' then reportPath "chmod" "cannot access" path e
      return 1
  | .ok (place, entry) => do
    let targets : List (Files.Location × Entry) := match entry with
      | .directory =>
        if a.has 'R' then s.tree.entries.filter fun (l, _) => place.isPrefixOf l else []
      | entry => [(place, entry)]
    for (_, target) in targets do
      if let .file number := target then
        let old := (s.tree.file number).mode
        let new := (change old).getD old
        modify fun s => { s with tree := s.tree.modify number fun f => { f with mode := new } }
        let shown (mode : Nat) : String := octalText 4 mode ++ " (" ++ permissionText mode ++ ")"
        if old != new && a.hasAny "vc" then
          Act.printLine (octets ("mode of " ++ quotedPath path ++ " changed from " ++ shown old
            ++ " to " ++ shown new))
        else if a.has 'v' then
          Act.printLine (octets ("mode of " ++ quotedPath path ++ " retained as " ++ shown old))
    return 0

/-- Whether an argument is a change although it begins like an option. -/
def isDashedChange : Octets → Bool
  | '-' :: c :: _ => isPermission c || ",+=a01234567".toList.contains c
  | _ => false

def chmod (arguments : List Octets) : Act Nat :=
  let table : OptionTable :=
    { utility := "chmod", letters := "Rcfv"
      names := [("recursive", 'R'), ("verbose", 'v'), ("changes", 'c'), ("silent", 'f')] }
  let dashed? := arguments.find? isDashedChange
  table.run (arguments.filter (some · != dashed?)) fun a => do
    let (mode?, paths) := match dashed? with
      | some mode => (some mode, a.operands)
      | none => (a.operands.head?, a.operands.drop 1)
    let s ← get
    match mode? with
    | none => reportUsage "chmod" "missing operand"
    | some mode =>
      if paths.isEmpty then reportUsage "chmod" ("missing operand after " ++ quotedPath mode)
      else if (changedMode? s.mask mode 0).isNone then
        reportUsage "chmod" ("invalid mode: " ++ quotedPath mode)
      else forOperands paths (changePath a (changedMode? s.mask mode))

/-- The utilities `chown` and `chgrp`, whose effect cannot be seen here. -/
def changeOwner (utility : String) (arguments : List Octets) : Act Nat :=
  let table : OptionTable := { utility, letters := "RcfvhHLP" }
  table.run arguments fun a =>
    match a.operands with
    | [] => reportUsage utility "missing operand"
    | [owner] => reportUsage utility ("missing operand after " ++ quotedPath owner)
    | _ :: paths =>
      forOperands paths fun path => do
        match ← Act.find? path with
        | some _ => return 0
        | none => do
          reportPath utility "cannot access" path .notFound
          return 1

def kindText (t : Tree) : Entry → String
  | .file number =>
    if (t.file number).content.isEmpty then "regular empty file" else "regular file"
  | .directory => "directory"
  | .link _ => "symbolic link"
  | .device _ => "character special file"
  | .program _ => "regular file"

def kindLetter : Entry → Char
  | .file _ | .program _ => '-'
  | .directory => 'd'
  | .link _ => 'l'
  | .device _ => 'c'

def entrySize (t : Tree) : Entry → Nat
  | .file number => (t.file number).content.length
  | .directory => 4096
  | .link goal => goal.utf8ByteSize
  | .device _ | .program _ => 0

def statText (t : Tree) (path : Octets) (entry : Entry) : Octets → Octets
  | '%' :: c :: rest =>
    let text := match c with
      | 'a' => octalText 1 (entryMode t entry)
      | 'A' => String.singleton (kindLetter entry) ++ permissionText (entryMode t entry)
      | 'F' => kindText t entry
      | 's' => toString (entrySize t entry)
      | 'h' => toString (max 1 (t.entries.countP fun (_, other) => other == entry))
      | 'u' | 'g' => "0"
      | 'U' | 'G' => "root"
      | 'N' =>
        match entry with
        | .link goal => quotedPath path ++ " -> " ++ quotedPath (octets goal)
        | _ => quotedPath path
      | '%' => "%"
      | _ => "?"
    (if c = 'n' then path else octets text) ++ statText t path entry rest
  | c :: rest => c :: statText t path entry rest
  | [] => []

def stat (arguments : List Octets) : Act Nat :=
  let table : OptionTable :=
    { utility := "stat", letters := "Lft", valued := "c"
      names := [("format", 'c'), ("dereference", 'L')] }
  table.run arguments fun a => do
    if a.operands.isEmpty then reportUsage "stat" "missing operand"
    else
      let format := (a.value? 'c').getD "%n".toList
      forOperands a.operands fun path => do
        let s ← get
        match s.tree.locate (a.has 'L') s.current (Octets.text path) with
        | .ok (_, entry) => do
          Act.printLine (statText s.tree path entry format)
          return 0
        | .error e => do
          reportPath "stat" "cannot statx" path e
          return 1

end ZoneGuard.Shell
