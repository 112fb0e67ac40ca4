import ZoneGuard.Shell.Utility.Paths

/-!
# Utilities on files

The utilities that make, copy, move, link and remove files and directories.
-/

namespace ZoneGuard.Shell

open Files (OsError Tree Entry)

/-! ### Targets -/

/-- Where the source goes: into the target if that is a directory, or else to it. -/
def destination (target source : Octets) : Act Octets := do
  match ← Act.find? target with
  | some .directory => return pathIn target (baseName source)
  | _ => return target

/-- The sources and the target of a utility that has both, and whether the target is the goal of a
single source even if it is a directory. -/
def withTarget (utility : String) (a : Arguments) (act : Bool → Octets → Octets → Act Nat) :
    Act Nat := do
  let isGoal := a.has 'T'
  match a.value? 't' with
  | some target => forOperands a.operands (act false target)
  | none =>
    match a.operands, a.operands.getLast? with
    | [], _ | _, none => reportUsage utility "missing file operand"
    | [source], _ =>
      reportUsage utility ("missing destination file operand after " ++ quotedPath source)
    | first :: second :: more, some target => do
      let s ← get
      match more, s.tree.find s.current (Octets.text target) with
      | [], _ | _ :: _, .ok .directory =>
        forOperands (first :: second :: more).dropLast (act isGoal target)
      | _ :: _, found => do
        let reason := match found with
          | .ok _ => OsError.notADirectory
          | .error e => e
        Act.warn (utility ++ ": target " ++ quotedPath target ++ ": " ++ reason.reason)
        return 1

/-- Says that two paths lead to one file. -/
def reportSame (utility : String) (source goal : Octets) : Act Nat := do
  Act.warn (utility ++ ": " ++ quotedPath source ++ " and " ++ quotedPath goal ++
    " are the same file")
  return 1

/-- Prints what was done with two paths, if that is asked for. -/
def printPair (isVerbose : Bool) (action : String) (source goal : Octets) : Act Unit := do
  if isVerbose then
    Act.printLine (octets (action ++ quotedPath source ++ " -> " ++ quotedPath goal))

/-! ### Copying -/

/-- Sets the copy of an entry at the goal, of which what stands there is not a directory. -/
def placeCopy (a : Arguments) (goal : Octets) (entry : Entry) : Act (Option OsError) := do
  let s ← get
  let goalText := Octets.text goal
  match entry with
  | .file number => do
    let f := s.tree.file number
    let mode ← if a.hasAny "ap" then pure f.mode else Act.granted (f.mode &&& 0o777)
    Act.changeTree fun t current =>
      match t.openFile mode current goalText with
      | .ok (.file copied, t) => .ok (t.setContent copied f.content)
      | .ok (.device .full, t) => if f.content.isEmpty then .ok t else .error .noSpace
      | .ok (_, t) => .ok t
      | .error .isADirectory => .error .notADirectory
      | .error e => .error e
  | .device _ => Act.writeFile goal [] false
  | entry =>
    Act.changeTree fun t current =>
      (t.resolve false current goalText).map fun target => t.set target.location entry

def copyDirectory (a : Arguments) (goal source : Octets) (old : Files.Location) : Act Nat := do
  let s ← get
  match s.tree.resolve true s.current (Octets.text goal) with
  | .error e => do
    reportPath "cp" "cannot create directory" goal e
    return 1
  | .ok new =>
    let isFile := match s.tree.get? new.location with
      | none | some .directory => false
      | some _ => true
    if !a.hasAny "rRa" then do
      Act.warn ("cp: -r not specified; omitting directory " ++ quotedPath source)
      return 1
    else if isFile then do
      Act.warn ("cp: cannot overwrite non-directory " ++ quotedPath goal ++ " with directory "
        ++ quotedPath source)
      return 1
    else if old.isPrefixOf new.location then do
      Act.warn ("cp: cannot copy a directory, " ++ quotedPath source ++ ", into itself, "
        ++ quotedPath goal)
      return 1
    else do
      set { s with tree := s.tree.copy old new.location }
      printPair (a.has 'v') "" source goal
      return 0

def copyEntry (a : Arguments) (goal source : Octets) (old : Files.Location) (entry : Entry) :
    Act Nat := do
  let s ← get
  let goalText := Octets.text goal
  let isLink := match entry with
    | .link _ => true
    | _ => false
  let place : Act Nat := do
    match ← placeCopy a goal entry with
    | none => do
      printPair (a.has 'v') "" source goal
      return 0
    | some e => do
      reportPath "cp" "cannot create regular file" goal e
      return 1
  match s.tree.locate true s.current goalText, s.tree.findNamed s.current goalText with
  | .ok (_, .directory), _ => do
    Act.warn ("cp: cannot overwrite directory " ++ quotedPath goal ++ " with non-directory "
      ++ quotedPath source)
    return 1
  | .ok (new, other), _ =>
    let isSame := new == old || match entry, other with
      | .file m, .file n => m == n
      | _, _ => false
    if isSame then reportSame "cp" source goal
    else if a.has 'n' then return 0
    else place
  | .error _, .ok (.link _) =>
    if isLink then place
    else do
      Act.warn ("cp: not writing through dangling symlink " ++ quotedPath goal)
      return 1
  | .error _, _ => place

def copyPath (a : Arguments) (isGoal : Bool) (target source : Octets) : Act Nat := do
  let goal ← if isGoal then pure target else destination target source
  let followsLinks := a.hasAny "LH" || !a.hasAny "rRaPd"
  let s ← get
  match s.tree.locate followsLinks s.current (Octets.text source) with
  | .ok (old, .directory) => copyDirectory a goal source old
  | .ok (old, entry) => copyEntry a goal source old entry
  | .error e => do
    reportPath "cp" "cannot stat" source e
    return 1

def cp (arguments : List Octets) : Act Nat :=
  let table : OptionTable :=
    { utility := "cp", letters := "abdfHiLlnPpRrsTuvx", valued := "tS"
      names := [("archive", 'a'), ("force", 'f'), ("recursive", 'r'), ("no-clobber", 'n'),
        ("verbose", 'v'), ("no-dereference", 'P'), ("dereference", 'L'),
        ("no-target-directory", 'T'), ("target-directory", 't'), ("update", 'u')] }
  table.run arguments fun a => withTarget "cp" a (copyPath a)

/-! ### Moving -/

def movePath (a : Arguments) (isGoal : Bool) (target source : Octets) : Act Nat := do
  let goal ← if isGoal then pure target else destination target source
  let s ← get
  let fail (text : String) : Act Nat := do
    Act.warn ("mv: cannot " ++ text)
    return 1
  match s.tree.locate false s.current (Octets.text source),
      s.tree.resolve false s.current (Octets.text goal) with
  | .error e, _ => do
    reportPath "mv" "cannot stat" source e
    return 1
  | .ok _, .error e =>
    fail ("move " ++ quotedPath source ++ " to " ++ quotedPath goal ++ ": " ++ e.reason)
  | .ok (old, entry), .ok new =>
    let finish : Act Nat := do
      set { s with tree := s.tree.relocate old new.location }
      printPair (a.has 'v') "renamed " source goal
      return 0
    if old == new.location then reportSame "mv" source goal
    else if old.isPrefixOf new.location then
      fail ("move " ++ quotedPath source ++ " to a subdirectory of itself, " ++ quotedPath goal)
    else
      match s.tree.get? new.location, entry with
      | none, .directory => finish
      | none, _ =>
        if new.asDirectory then
          fail ("move " ++ quotedPath source ++ " to " ++ quotedPath goal ++ ": "
            ++ OsError.notADirectory.reason)
        else finish
      | some .directory, .directory =>
        if (s.tree.names new.location).isEmpty then finish
        else fail ("overwrite " ++ quotedPath goal ++ ": " ++ OsError.notEmpty.reason)
      | some .directory, _ =>
        fail ("overwrite directory " ++ quotedPath goal ++ " with non-directory")
      | some _, .directory =>
        fail ("overwrite non-directory " ++ quotedPath goal ++ " with directory "
          ++ quotedPath source)
      | some _, _ => if a.has 'n' then return 0 else finish

def mv (arguments : List Octets) : Act Nat :=
  let table : OptionTable :=
    { utility := "mv", letters := "bfinTuvZ", valued := "tS"
      names := [("force", 'f'), ("no-clobber", 'n'), ("verbose", 'v'),
        ("no-target-directory", 'T'), ("target-directory", 't'), ("update", 'u')] }
  table.run arguments fun a => withTarget "mv" a (movePath a)

/-! ### Linking -/

/-- Makes a link at the goal: one that holds the path of the source, or another name of its file. -/
def linkPath (a : Arguments) (isGoal : Bool) (target source : Octets) : Act Nat := do
  let isSymbolic := a.has 's'
  let isLink := match ← Act.findNamed? target with
    | some (.link _) => true
    | _ => false
  let goal ← if isGoal || a.has 'n' && isLink then pure target else destination target source
  let s ← get
  let goalText := Octets.text goal
  let source? := s.tree.locate false s.current (Octets.text source)
  let goal? := s.tree.locate false s.current goalText
  let kind := if isSymbolic then "symbolic link " else "hard link "
  let finish (failure? : Option OsError) : Act Nat := do
    match failure? with
    | none => do
      printPair (a.has 'v') "" goal source
      return 0
    | some e => do
      let shown := if isSymbolic || e = .alreadyExists then quotedPath goal
        else quotedPath goal ++ " => " ++ quotedPath source
      Act.warn ("ln: failed to create " ++ kind ++ shown ++ ": " ++ e.reason)
      return 1
  let cleared (t : Tree) : Tree :=
    match goal?, a.has 'f' with
    | .ok (_, .directory), _ | .error _, _ | _, false => t
    | .ok (place, _), true => t.erase place
  let isSame := match source?, goal? with
    | .ok (old, _), .ok (new, _) => old == new
    | _, _ => false
  if isSame && a.has 'f' then reportSame "ln" source goal
  else if isSymbolic then do
    finish (← Act.changeTree fun t current =>
      (cleared t).makeLink current goalText (Octets.text source))
  else
    match source? with
    | .error e => do
      reportPath "ln" "failed to access" source e
      return 1
    | .ok (_, .directory) => do
      Act.warn ("ln: " ++ shownPath source ++ ": hard link not allowed for directory")
      return 1
    | .ok (_, entry) => do
      finish (← Act.changeTree fun t current => do
        let t := cleared t
        let new ← t.resolve false current goalText
        match t.get? new.location with
        | some _ => .error .alreadyExists
        | none => if new.asDirectory then .error .notADirectory else .ok (t.set new.location entry))

def ln (arguments : List Octets) : Act Nat :=
  let table : OptionTable :=
    { utility := "ln", letters := "bdFfiLnPrsTv", valued := "tS"
      names := [("symbolic", 's'), ("force", 'f'), ("no-dereference", 'n'), ("verbose", 'v'),
        ("no-target-directory", 'T'), ("target-directory", 't')] }
  table.run arguments fun a =>
    match a.operands, a.value? 't' with
    | [source], none => linkPath a false ['.'] source
    | _, _ => withTarget "ln" a (linkPath a)

/-! ### Removing -/

/-- The locations under a directory and the directory itself, inner ones first. -/
def locationsUnder (t : Tree) (place : Files.Location) : List Files.Location :=
  let under := (t.entries.map (·.1)).filter place.isPrefixOf
  (under.mergeSort fun a b => b.length ≤ a.length)

def removePath (a : Arguments) (path : Octets) : Act Nat := do
  let failed (e : OsError) : Act Nat := do
    reportPath "rm" "cannot remove" path e
    return 1
  let announce (kind : String) (path : Octets) : Act Unit := do
    if a.has 'v' then Act.printLine (octets ("removed " ++ kind ++ quotedPath path))
  let base := baseName path
  let s ← get
  match s.tree.locate false s.current (Octets.text path) with
  | .error e =>
    if a.has 'f' && (e = .notFound || e = .notADirectory) then return 0 else failed e
  | .ok (place, .directory) =>
    if a.hasAny "rR" then
      if base = ['.'] || base = ['.', '.'] then do
        Act.warn ("rm: refusing to remove '.' or '..' directory: skipping " ++ quotedPath path)
        return 1
      else if place.isEmpty then do
        Act.warn "rm: it is dangerous to operate recursively on '/'"
        Act.warn "rm: use --no-preserve-root to override this failsafe"
        return 1
      else do
        for inner in locationsUnder s.tree place do
          let kind := if s.tree.get? inner = some .directory then "directory " else ""
          let rest := inner.drop place.length
          announce kind (rest.foldl (fun path name => pathIn path (octets name)) path)
        set { s with tree := s.tree.erase place }
        return 0
    else if a.has 'd' then
      match ← Act.changeTree fun t current => t.removeDirectory current (Octets.text path) with
      | none => do
        announce "directory " path
        return 0
      | some e => failed e
    else failed .isADirectory
  | .ok _ =>
    match ← Act.changeTree fun t current => t.removeFile current (Octets.text path) with
    | none => do
      announce "" path
      return 0
    | some e => failed e

def rm (arguments : List Octets) : Act Nat :=
  let table : OptionTable :=
    { utility := "rm", letters := "dfIiRrv"
      names := [("force", 'f'), ("recursive", 'r'), ("dir", 'd'), ("verbose", 'v')] }
  table.run arguments fun a => do
    if !a.operands.isEmpty then forOperands a.operands (removePath a)
    else if a.has 'f' then return 0
    else reportUsage "rm" "missing operand"

def unlink (arguments : List Octets) : Act Nat := do
  match arguments with
  | [path] =>
    match ← Act.changeTree fun t current => t.removeFile current (Octets.text path) with
    | none => return 0
    | some e => do
      reportPath "unlink" "cannot unlink" path e
      return 1
  | [] => reportUsage "unlink" "missing operand"
  | _ :: extra :: _ => reportUsage "unlink" ("extra operand " ++ quotedPath extra)

/-! ### Directories -/

def leadingPaths (path : Octets) : List Octets :=
  let parts := (Text.splitAtEach '/' path).filter (!·.isEmpty)
  (List.range parts.length).map fun i =>
    (if path.head? == some '/' then ['/'] else []) ++ ['/'].intercalate (parts.take (i + 1))

/-- Makes a directory, and the ones on the way to it on request. -/
def makePath (a : Arguments) (path : Octets) : Act Nat := do
  let make (path : Octets) : Act (Option OsError) :=
    Act.changeTree fun t current => t.makeDirectory current (Octets.text path)
  let announce (path : Octets) : Act Unit := do
    if a.has 'v' then
      Act.printLine (octets ("mkdir: created directory " ++ quotedPath path))
  let failed (path : Octets) (e : OsError) : Act Nat := do
    reportPath "mkdir" "cannot create directory" path e
    return 1
  if !a.has 'p' || path.isEmpty then
    match ← make path with
    | none => do
      announce path
      return 0
    | some e => failed path e
  else
    let whole := leadingPaths path
    for part in whole do
      match ← make part with
      | none => announce part
      | some e =>
        match ← Act.find? part with
        | some .directory => pure ()
        | some _ =>
          return ← failed part (if some part == whole.getLast? then e else .notADirectory)
        | none => return ← failed part e
    return 0

def mkdir (arguments : List Octets) : Act Nat :=
  let table : OptionTable :=
    { utility := "mkdir", letters := "pvZ", valued := "m"
      names := [("parents", 'p'), ("mode", 'm'), ("verbose", 'v')] }
  table.run arguments fun a =>
    if a.operands.isEmpty then reportUsage "mkdir" "missing operand"
    else forOperands a.operands (makePath a)

def rmdir (arguments : List Octets) : Act Nat :=
  let table : OptionTable :=
    { utility := "rmdir", letters := "pv"
      names := [("parents", 'p'), ("verbose", 'v'), ("ignore-fail-on-non-empty", 'i')] }
  table.run arguments fun a => do
    if a.operands.isEmpty then reportUsage "rmdir" "missing operand"
    else
      let isLenient (e : OsError) : Bool := a.has 'i' && e = .notEmpty
      forOperands a.operands fun path => do
        for (part, i) in (if a.has 'p' then (leadingPaths path).reverse else [path]).zipIdx do
          match ← Act.changeTree fun t current => t.removeDirectory current (Octets.text part) with
          | none => pure ()
          | some e =>
            if isLenient e then return 0
            else
              let action := if i = 0 then "failed to remove" else "failed to remove directory"
              reportPath "rmdir" action part e
              return 1
        return 0

/-! ### Times -/

/-- The utility `touch`, which only makes files here. -/
def touch (arguments : List Octets) : Act Nat :=
  let table : OptionTable :=
    { utility := "touch", letters := "acfhm", valued := "drt"
      names := [("no-create", 'c'), ("date", 'd'), ("reference", 'r')] }
  table.run arguments fun a => do
    if a.operands.isEmpty then reportUsage "touch" "missing file operand"
    else
      forOperands a.operands fun path => do
        match ← Act.find? path with
        | some _ => return 0
        | none =>
          if a.has 'c' then return 0
          else
            match ← Act.writeFile path [] true with
            | none => return 0
            | some .isADirectory => do
              reportPath "touch" "setting times of" path .notFound
              return 1
            | some e => do
              reportPath "touch" "cannot touch" path e
              return 1

end ZoneGuard.Shell
