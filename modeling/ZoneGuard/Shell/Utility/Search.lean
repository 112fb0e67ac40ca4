import ZoneGuard.Shell.Utility.Running

/-!
# Searching directories

The utility `find`: a walk through directories, and the criteria that what it comes by is held
against. Some criteria do something and hold if that succeeds.
-/

namespace ZoneGuard.Shell

open Files (OsError Tree Entry)

/-- What the walk may be asked about the things that it comes by. -/
inductive Criterion where
  | always (truth : Bool)
  /-- The last part of the path, or the whole path, matches a pattern. -/
  | name (wholePath ignoringCase : Bool) (pattern : Octets)
  | kind (letters : Octets)
  | empty
  /-- The size in units, rounded up: more than the number, less or equal. -/
  | size (sign? : Option Char) (count unit : Nat)
  | mode (wanted : Nat)
  | print (ending : Char)
  | delete
  | prune
  | quit
  /-- Runs a program, once for each path or for all of them at the end. -/
  | execute (isBatch : Bool) (words : List Octets)
  | not (c : Criterion)
  | and (a b : Criterion)
  | or (a b : Criterion)

def Criterion.acts : Criterion → Bool
  | .print _ | .delete | .execute _ _ | .quit => true
  | .not c => c.acts
  | .and a b | .or a b => a.acts || b.acts
  | _ => false

/-- Whether the criterion removes what is found, so that directories come last. -/
def Criterion.deletes : Criterion → Bool
  | .delete => true
  | .not c => c.deletes
  | .and a b | .or a b => a.deletes || b.deletes
  | _ => false

/-! ### Reading -/

/-- What has been read of the arguments: the depths between which criteria count, whether
directories come last, and what is left. -/
structure SearchWords where
  least : Nat := 0
  most? : Option Nat := none
  insideFirst : Bool := false
  rest : List Octets

abbrev SearchRead := Except String (Criterion × SearchWords)

def sizeCriterion (text : Octets) : Criterion :=
  let (sign?, digits) := match text with
    | '+' :: rest => (some '+', rest)
    | '-' :: rest => (some '-', rest)
    | rest => (none, rest)
  let unit := match digits.getLast? with
    | some 'c' => 1
    | some 'w' => 2
    | some 'k' => 1024
    | some 'M' => 1048576
    | _ => 512
  .size sign? (digitsValue 10 (digits.takeWhile Char.isDigit)) unit

/-- The words of a command up to the one that ends it, and whether it takes all paths at once. -/
def executedWords : List Octets → List Octets → Option (Bool × List Octets × List Octets)
  | _, [] => none
  | words, [';'] :: rest => some (false, words.reverse, rest)
  | ['\x7b', '\x7d'] :: words, ['+'] :: rest => some (true, words.reverse, rest)
  | words, w :: rest => executedWords (w :: words) rest

def valuedCriterion? (option : String) (value : Octets) : Option (Except String Criterion) :=
  match option with
  | "-name" => some (.ok (.name false false value))
  | "-iname" => some (.ok (.name false true value))
  | "-path" | "-wholename" => some (.ok (.name true false value))
  | "-ipath" => some (.ok (.name true true value))
  | "-type" =>
    match value.find? fun c => !",bcdpfls".toList.contains c with
    | some c => some (.error ("Unknown argument to -type: " ++ String.singleton c))
    | none => some (.ok (.kind value))
  | "-size" => some (.ok (sizeCriterion value))
  | "-perm" => some (.ok (.mode (digitsValue 8 value)))
  | "-newer" | "-user" | "-group" | "-mtime" | "-mmin" => some (.ok (.always true))
  | _ => none

mutual

def readAny : Nat → SearchWords → SearchRead
  | 0, _ => .error "invalid expression"
  | steps + 1, w => do
    let (first, w) ← readAll steps w
    match w.rest with
    | word :: rest =>
      if word = "-o".toList || word = "-or".toList then do
        let (second, w) ← readAny steps { w with rest }
        return (.or first second, w)
      else return (first, w)
    | [] => return (first, w)

def readAll : Nat → SearchWords → SearchRead
  | 0, _ => .error "invalid expression"
  | steps + 1, w => do
    let (first, w) ← readOne steps w
    match w.rest with
    | [] => return (first, w)
    | word :: rest =>
      if [")", "-o", "-or"].any (·.toList == word) then return (first, w)
      else do
        let isJoint := word = "-a".toList || word = "-and".toList
        let (second, w) ← readAll steps { w with rest := if isJoint then rest else w.rest }
        return (.and first second, w)

def readOne : Nat → SearchWords → SearchRead
  | 0, _ => .error "invalid expression"
  | steps + 1, w =>
    match w.rest with
    | [] => .error "invalid expression"
    | word :: rest =>
      let plain (c : Criterion) : SearchRead := .ok (c, { w with rest })
      match String.ofList word with
      | "!" | "-not" => do
        let (c, w) ← readOne steps { w with rest }
        return (.not c, w)
      | "(" => do
        let (c, w) ← readAny steps { w with rest }
        match w.rest with
        | [')'] :: rest => return (c, { w with rest })
        | _ =>
          throw ("invalid expression; I was expecting to find a ')' somewhere "
            ++ "but did not see one.")
      | "-print" => plain (.print '\n')
      | "-print0" => plain (.print '\x00')
      | "-delete" => .ok (.delete, { w with rest, insideFirst := true })
      | "-prune" => plain .prune
      | "-quit" => plain .quit
      | "-empty" => plain .empty
      | "-true" | "-follow" | "-xdev" | "-mount" => plain (.always true)
      | "-false" => plain (.always false)
      | "-depth" | "-d" => .ok (.always true, { w with rest, insideFirst := true })
      | "-maxdepth" =>
        let most := digitsValue 10 (rest.headD [])
        .ok (.always true, { w with rest := rest.drop 1, most? := some most })
      | "-mindepth" =>
        .ok (.always true, { w with rest := rest.drop 1, least := digitsValue 10 (rest.headD []) })
      | "-exec" | "-ok" | "-execdir" =>
        match executedWords [] rest with
        | some (isBatch, words, rest) => .ok (.execute isBatch words, { w with rest })
        | none => .error ("missing argument to \x60" ++ String.ofList word ++ "'")
      | option =>
        match rest with
        | value :: rest =>
          match valuedCriterion? option value with
          | some (.ok c) => .ok (c, { w with rest })
          | some (.error fault) => .error fault
          | none => .error ("unknown predicate \x60" ++ option ++ "'")
        | [] =>
          if (valuedCriterion? option []).isSome
          then .error ("missing argument to \x60" ++ option ++ "'")
          else .error ("unknown predicate \x60" ++ option ++ "'")

end

/-! ### Walking -/

structure Visit where
  path : Octets
  place : Files.Location
  entry : Entry
  /-- How many directories lie between it and the beginning. -/
  depth : Nat

/-- What came of holding a criterion against something. -/
structure Verdict where
  truth : Bool
  isPruned : Bool := false
  quits : Bool := false
  /-- The commands that are to run with all paths at the end, each with the path. -/
  later : List (List Octets × Octets) := []

/-- Whether the size of an entry in units, rounded up, is as asked. -/
def hasSize (t : Tree) (sign? : Option Char) (count unit : Nat) (entry : Entry) : Bool :=
  let units := (entrySize t entry + (unit - 1)) / unit
  match sign? with
  | some '+' => count < units
  | some _ => units < count
  | none => units == count

def isEmptyEntry (t : Tree) (v : Visit) : Bool :=
  match v.entry with
  | .file number => (t.file number).content.isEmpty
  | .directory => (t.names v.place).isEmpty
  | _ => false

def Criterion.judge (start : Starter) (v : Visit) : Criterion → Act Verdict
  | .always truth => return { truth }
  | .name wholePath ignoringCase pattern => do
    let lower (text : Octets) : Octets := if ignoringCase then text.map Char.toLower else text
    let text := if wholePath then v.path else baseName v.path
    return { truth := isMatch (patternOf ((lower pattern).map (⟨·, true⟩))) (lower text) }
  | .kind letters => do
    let letter := if kindLetter v.entry = '-' then 'f' else kindLetter v.entry
    return { truth := letters.contains letter }
  | .empty => do
    let s ← get
    return { truth := isEmptyEntry s.tree v }
  | .size sign? count unit => do
    let s ← get
    return { truth := hasSize s.tree sign? count unit v.entry }
  | .mode wanted => do
    let s ← get
    return { truth := entryMode s.tree v.entry == wanted }
  | .print ending => do
    Act.print (v.path ++ [ending])
    return { truth := true }
  | .delete => do
    if baseName v.path = ['.'] then return { truth := true }
    let remove := match v.entry with
      | .directory => Tree.removeDirectory
      | _ => Tree.removeFile
    match ← Act.changeTree fun t current => remove t current (Octets.text v.path) with
    | none => return { truth := true }
    | some e => do
      reportPath "find" "cannot delete" v.path e
      return { truth := false }
  | .prune => return { truth := true, isPruned := true }
  | .quit => return { truth := true, quits := true }
  | .execute isBatch words => do
    if isBatch then return { truth := true, later := [(words, v.path)] }
    let status ← startFor start "find: " (words.map (filled ['\x7b', '\x7d'] v.path))
    return { truth := status == 0 }
  | .not c => do
    let verdict ← c.judge start v
    return { verdict with truth := !verdict.truth }
  | .and a b => do
    let first ← a.judge start v
    if !first.truth || first.quits then return first
    let second ← b.judge start v
    return { second with
      isPruned := first.isPruned || second.isPruned, later := first.later ++ second.later }
  | .or a b => do
    let first ← a.judge start v
    if first.truth || first.quits then return first
    let second ← b.judge start v
    return { second with
      isPruned := first.isPruned || second.isPruned, later := first.later ++ second.later }

/-- Walks through what stands at a place and, if it is a directory, all that is in it. Each level
goes down one directory. The answer tells whether to go on and what is to run at the end. -/
def walkThrough (start : Starter) (w : SearchWords) (c : Criterion) :
    Nat → Visit → Act (Bool × List (List Octets × Octets))
  | 0, _ => return (true, [])
  | levels + 1, v => do
    let counts := w.least ≤ v.depth
    let before ← if counts && !w.insideFirst then c.judge start v else pure { truth := true }
    if before.quits then return (false, before.later)
    let mut later := before.later
    let s ← get
    let goesDeeper := v.entry = .directory && w.most?.all (v.depth < ·) && !before.isPruned
    for name in if goesDeeper then s.tree.names v.place else [] do
      match s.tree.get? (v.place ++ [name]) with
      | none => pure ()
      | some entry =>
        let (goesOn, more) ← walkThrough start w c levels
          ⟨pathIn v.path (octets name), v.place ++ [name], entry, v.depth + 1⟩
        later := later ++ more
        if !goesOn then return (false, later)
    if counts && w.insideFirst then
      let after ← c.judge start v
      return (!after.quits, later ++ after.later)
    return (true, later)

def find (start : Starter) (arguments : List Octets) : Act Nat := do
  let isCriterion (w : Octets) : Bool :=
    w.head? == some '-' && w.length > 1 || w == ['('] || w == ['!']
  let arguments := arguments.dropWhile fun w => ["-H", "-L", "-P"].any (·.toList == w)
  let paths := arguments.takeWhile (!isCriterion ·)
  let words := arguments.drop paths.length
  let steps := 4 * words.length + 4
  let read : SearchRead :=
    if words.isEmpty then .ok (.always true, { rest := [] })
    else readAny steps { rest := words }
  match read with
  | .error fault => do
    Act.warn ("find: " ++ fault)
    return 1
  | .ok (c, w) => do
    let c := if c.acts then c else .and c (.print '\n')
    let mut status := 0
    let mut later : List (List Octets × Octets) := []
    for path in if paths.isEmpty then [['.']] else paths do
      let s ← get
      match s.tree.locate false s.current (Octets.text path) with
      | .error e =>
        Act.warn ("find: " ++ quotedPath path ++ ": " ++ e.reason)
        status := 1
      | .ok (place, entry) =>
        let (_, more) ← walkThrough start w c (s.tree.entries.length + 2) ⟨path, place, entry, 0⟩
        later := later ++ more
    for command in (later.map (·.1)).eraseDups do
      let found := later.filterMap fun (words, path) => if words = command then some path else none
      let ended ← startFor start "find: " (command ++ found)
      if ended != 0 then status := 1
    return status

end ZoneGuard.Shell
