import ZoneGuard.Shell.Utility.Options

/-!
# Utilities on paths

The utilities that take paths apart, and those that tell where a path leads.
-/

namespace ZoneGuard.Shell

open Files (OsError)

/-! ### Taking paths apart -/

/-- The path without separators at its end, of which a path of nothing else keeps one. -/
def withoutEndSlashes (path : Octets) : Octets :=
  let cut := (path.reverse.dropWhile (· == '/')).reverse
  if cut.isEmpty && !path.isEmpty then ['/'] else cut

def baseName (path : Octets) : Octets :=
  let path := withoutEndSlashes path
  if path = ['/'] then path else Text.afterLast '/' path

/-- A path without its last part. -/
def directoryName (path : Octets) : Octets :=
  let path := withoutEndSlashes path
  let base := Text.afterLast '/' path
  if base.length = path.length then ['.']
  else if path = ['/'] then path
  else withoutEndSlashes (path.take (path.length - base.length))

def pathIn (directory name : Octets) : Octets :=
  if directory.getLast? == some '/' then directory ++ name else directory ++ '/' :: name

/-- The last part of a path without an ending, unless it is nothing else. -/
def baseWithout (ending path : Octets) : Octets :=
  let base := baseName path
  if ending.reverse.isPrefixOf base.reverse && ending != base
  then base.take (base.length - ending.length) else base

def basename (arguments : List Octets) : Act Nat :=
  let table : OptionTable :=
    { utility := "basename", letters := "az", valued := "s", permutes := false
      names := [("multiple", 'a'), ("suffix", 's'), ("zero", 'z')] }
  table.run arguments fun a => do
    let ending := (a.value? 's').getD []
    match a.operands with
    | [] => reportUsage "basename" "missing operand"
    | [path] => do
      Act.printLine (baseWithout ending path)
      return 0
    | paths =>
      if a.hasAny "as" then forOperands paths fun path => do
        Act.printLine (baseWithout ending path)
        return 0
      else
        match paths with
        | _ :: _ :: extra :: _ => reportUsage "basename" ("extra operand " ++ quotedPath extra)
        | paths => do
          Act.printLine (baseWithout ((paths.drop 1).headD []) (paths.headD []))
          return 0

def dirname (arguments : List Octets) : Act Nat :=
  let table : OptionTable := { utility := "dirname", letters := "z", names := [("zero", 'z')] }
  table.run arguments fun a => do
    if a.operands.isEmpty then reportUsage "dirname" "missing operand"
    else forOperands a.operands fun path => do
      Act.printLine (directoryName path)
      return 0

/-! ### Where paths lead -/

/-- The absolute path without links that a path leads to. Its last part may be missing or not. -/
def canonicalPath (mustExist : Bool) (path : Octets) : Act (Except OsError Octets) := do
  let s ← get
  let text := Octets.text path
  match s.tree.resolve true s.current text with
  | .error e => return .error e
  | .ok target =>
    match s.tree.get? target.location with
    | none => return if mustExist then .error .notFound else .ok (octets target.location.path)
    | some entry =>
      if target.asDirectory && entry != .directory then return .error .notADirectory
      else return .ok (octets target.location.path)

def readlink (arguments : List Octets) : Act Nat :=
  let table : OptionTable :=
    { utility := "readlink", letters := "femnqsvz"
      names := [("canonicalize", 'f'), ("canonicalize-existing", 'e'), ("no-newline", 'n')] }
  table.run arguments fun a => do
    if a.operands.isEmpty then reportUsage "readlink" "missing operand"
    else
      let ends : Octets := if a.has 'n' && a.operands.length == 1 then [] else ['\n']
      forOperands a.operands fun path => do
        if a.hasAny "fem" then
          match ← canonicalPath (a.has 'e') path with
          | .ok found => do
            Act.print (found ++ ends)
            return 0
          | .error _ => return 1
        else
          match ← Act.findNamed? path with
          | some (.link goal) => do
            Act.print (octets goal ++ ends)
            return 0
          | _ => return 1

def realpath (arguments : List Octets) : Act Nat :=
  let table : OptionTable :=
    { utility := "realpath", letters := "emqsz", names := [("canonicalize-existing", 'e')] }
  table.run arguments fun a => do
    if a.operands.isEmpty then reportUsage "realpath" "missing operand"
    else forOperands a.operands fun path => do
      match ← canonicalPath (a.has 'e') path with
      | .ok found => do
        Act.printLine found
        return 0
      | .error e => do
        if !a.has 'q' then reportPlain "realpath" path e
        return 1

/-! ### New names -/

/-- The template with the marks at its end replaced by a number. -/
def filledTemplate (template : Octets) (n : Nat) : Octets :=
  let width := (template.reverse.takeWhile (· == 'X')).length
  let digits := (toString n).toList
  template.take (template.length - width) ++ List.replicate (width - digits.length) '0'
    ++ digits.take width

def mktemp (arguments : List Octets) : Act Nat :=
  let table : OptionTable :=
    { utility := "mktemp", letters := "dqtu", valued := "p", names := [("directory", 'd')] }
  table.run arguments fun a => do
    let s ← get
    let temporary := (a.value? 'p').getD ((s.bindings.lookup "TMPDIR".toList).getD "/tmp".toList)
    let template := match a.operands with
      | [] => pathIn temporary "tmp.XXXXXXXXXX".toList
      | template :: _ => if a.hasAny "tp" then pathIn temporary template else template
    if !"XXX".toList.isPrefixOf template.reverse then do
      Act.warn ("mktemp: too few X's in template " ++ quotedPath template)
      return 1
    else
      let candidates := (List.range (s.tree.entries.length + 1)).map (filledTemplate template)
      match candidates.find? fun path => !(s.tree.findNamed s.current (Octets.text path)).isOk with
      | none => return 1
      | some path => do
        let failure? ← if a.has 'u' then pure none
          else if a.has 'd' then
            Act.changeTree fun t current => t.makeDirectory current (Octets.text path)
          else
            Act.changeTree fun t current =>
              (t.openFile 0o600 current (Octets.text path)).map (·.2)
        match failure? with
        | none => do
          Act.printLine path
          return 0
        | some e => do
          let kind := if a.has 'd' then "directory" else "file"
          Act.warn ("mktemp: failed to create " ++ kind ++ " via template " ++ quotedPath template
            ++ ": " ++ e.reason)
          return 1

end ZoneGuard.Shell
