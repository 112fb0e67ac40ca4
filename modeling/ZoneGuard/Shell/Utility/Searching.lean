import ZoneGuard.Shell.Pattern
import ZoneGuard.Shell.Utility.Order
import ZoneGuard.Shell.Utility.Regex

/-!
# Searching lines

The utility `grep`: the lines in which one of some patterns is found, or what is found in them, with
the lines around them.
-/

namespace ZoneGuard.Shell

open Files (OsError)

/-! ### Patterns -/

/-- The regular expression for any of the patterns, which stand on lines of their own. -/
def searchedRegex (a : Arguments) (text : Octets) : Except RegexFault Regex := do
  let extended := a.hasAny "EP"
  let patterns := Text.splitAtEach '\n' text
  let regexes ← patterns.mapM fun pattern => do
    let r ← if a.has 'F' then pure (Regex.literal pattern)
      else
        match Regex.fault? extended pattern with
        | some e => throw e
        | none => pure (Regex.ofText extended pattern)
    if a.has 'x' then return .both .lineStart (.both r .lineEnd)
    else if a.has 'w' then return .both (.beside true false) (.both r (.beside false false))
    else return r
  match regexes with
  | [] => return .empty
  | first :: rest => return rest.foldl .either first

/-- The patterns that options give, or nothing if none does. -/
def givenPatterns (a : Arguments) : Act (Except (Octets × OsError) (Option Octets)) := do
  let mut patterns : List Octets := []
  for (letter, value) in a.options do
    if letter = 'e' then patterns := patterns ++ [value]
    else if letter = 'f' then
      match ← Act.readOperand value with
      | .error e => return .error (value, e)
      | .ok content => patterns := patterns ++ linesOf content
  return .ok (if a.hasAny "ef" then some (['\n'].intercalate patterns) else none)

/-! ### Files -/

def filesBelow (t : Files.Tree) : Nat → Octets → Files.Location → List Octets
  | 0, _, _ => []
  | levels + 1, path, place =>
    (t.names place).flatMap fun name =>
      let inner := if path.isEmpty then octets name else path ++ '/' :: octets name
      match t.get? (place ++ [name]) with
      | some .directory => filesBelow t levels inner (place ++ [name])
      | some (.file _) => [inner]
      | _ => []

def isIncluded (a : Arguments) (path : Octets) : Bool :=
  let name := path.reverse.takeWhile (· != '/') |>.reverse
  let fits (pattern : Octets) : Bool := isMatch (patternOf (pattern.map fun c => ⟨c, true⟩)) name
  let included := a.valuesOf '1'
  (included.isEmpty || included.any fits) && !(a.valuesOf '2').any fits

/-- The paths that operands stand for, directories replaced by the files below them if that is asked
for. -/
def searchedPaths (a : Arguments) (operands : List Octets) : Act (List Octets) := do
  let s ← get
  if !a.has 'r' then return if operands.isEmpty then [['-']] else operands
  else if operands.isEmpty then
    return (filesBelow s.tree (s.tree.entries.length + 1) [] s.current).filter (isIncluded a)
  else
    return operands.flatMap fun path =>
      match s.tree.locate true s.current (Octets.text path) with
      | .ok (place, .directory) =>
        let path := if path.getLast? == some '/' then path.dropLast else path
        (filesBelow s.tree (s.tree.entries.length + 1) path place).filter (isIncluded a)
      | _ => [path]

/-! ### Lines -/

/-- What is printed of a line: nothing, itself as a neighbour of one that is found, or itself. -/
inductive LineRole where
  | hidden
  | neighbour
  | found
deriving DecidableEq

def placedLines : Nat → Nat → List Octets → List (Nat × Nat × Octets)
  | _, _, [] => []
  | number, offset, line :: rest =>
    (number, offset, line) :: placedLines (number + 1) (offset + line.length + 1) rest

/-- The roles of lines, of which some are found, with so many neighbours before and behind them. A
bounded number of lines can be found. -/
def lineRoles (before behind : Nat) : Nat → Nat → List Bool → List LineRole
  | _, _, [] => []
  | bound, remaining, isFound :: rest =>
    if isFound && bound != 0 then .found :: lineRoles before behind (bound - 1) behind rest
    else
      let comes := bound != 0 && (rest.take before).any id
      let role := if 0 < remaining || comes then LineRole.neighbour else .hidden
      role :: lineRoles before behind bound (remaining - 1) rest

structure LineSearch where
  regex : Regex
  ignoringCase : Bool
  inverted : Bool
  before : Nat
  behind : Nat
  bound? : Option Nat
  /-- Whether lines begin with the path of their file. -/
  isNamed : Bool

def LineSearch.finds (g : LineSearch) (line : Octets) : Bool :=
  g.regex.isFoundIn g.ignoringCase line != g.inverted

def lineLabel (a : Arguments) (g : LineSearch) (path : Octets) (mark : Char) (number offset : Nat) :
    Octets :=
  let text (n : Nat) : Octets := (toString n).toList ++ [mark]
  (if g.isNamed then path ++ [mark] else []) ++ (if a.has 'n' then text number else [])
    ++ if a.has 'b' then text offset else []

/-- The lines that are printed of a text, with marks between groups that do not touch. -/
def shownLines (a : Arguments) (g : LineSearch) (path : Octets) (lines : List Octets)
    (roles : List LineRole) : List Octets :=
  let placed := (placedLines 1 0 lines).zip roles
  let shown := placed.filter fun (_, role) => role != .hidden
  let hasNeighbours := 0 < g.before || 0 < g.behind
  let (texts, _) := shown.foldl (fun (texts, last?) ((number, offset, line), role) =>
    let gap : List Octets := match last? with
      | some last => if hasNeighbours && number != last + 1 then [['-', '-']] else []
      | none => []
    let own : List Octets :=
      if a.has 'o' then
        if g.inverted || role != .found then []
        else
          (g.regex.matchesIn g.ignoringCase (line.length + 1) 0 none line).map fun (place, found) =>
            lineLabel a g path ':' number (offset + place) ++ found
      else [lineLabel a g path (if role = .found then ':' else '-') number offset ++ line]
    (texts ++ gap ++ own, some number)) (([] : List Octets), (none : Option Nat))
  texts

/-- Searches one text and prints what is asked for. The answer tells whether something was found. -/
def searchText (a : Arguments) (g : LineSearch) (path content : Octets) : Act Bool := do
  let ending := if a.has 'z' then '\x00' else '\n'
  let lines := linesBy ending content
  let bound := g.bound?.getD lines.length
  let roles := lineRoles g.before g.behind bound 0 (lines.map g.finds)
  let count := roles.count .found
  let isFound := 0 < count
  if a.has 'q' then return isFound
  else if a.hasAny "lL" then do
    if isFound == a.has 'l' then Act.printLine path
    return isFound
  else if a.has 'c' then do
    Act.printLine ((if g.isNamed then path ++ [':'] else []) ++ (toString count).toList)
    return isFound
  else if content.contains '\x00' && !a.hasAny "az" && isFound then do
    Act.printLine (octets "grep: " ++ path ++ octets ": binary file matches")
    return true
  else do
    for line in shownLines a g path lines roles do
      Act.print (line ++ [ending])
    return isFound

/-! ### The utility -/

def grepUsage : String := "Usage: grep [OPTION]... PATTERNS [FILE]..."

/-- The arguments with a count that stands by itself as that of the lines around. -/
def withContextOption (arguments : List Octets) : List Octets :=
  arguments.map fun argument => match argument with
    | '-' :: d :: ds => if (d :: ds).all Char.isDigit then '-' :: 'C' :: d :: ds else argument
    | _ => argument

/-- The number of lines that the last of two options asks for. -/
def contextLength (a : Arguments) (letter : Char) : Except Octets Nat :=
  match ((a.options.filter fun (c, _) => c == letter).getLast?.or
    (a.options.filter fun (c, _) => c == 'C').getLast?) with
  | none => .ok 0
  | some (_, text) =>
    if text.isEmpty || !text.all Char.isDigit then .error text else .ok (digitsValue 10 text)

def searchFiles (a : Arguments) (g : LineSearch) (paths : List Octets) : Act Nat := do
  let mut isFound := false
  let mut isFaulty := false
  for path in paths do
    match ← Act.readOperand path with
    | .ok content =>
      let name := if path = ['-'] then "(standard input)".toList else path
      if ← searchText a g name content then
        isFound := true
        if a.has 'q' then return 0
    | .error e =>
      if !a.has 's' then reportPlain "grep" path e
      isFaulty := true
  return if isFaulty then 2 else if isFound then 0 else 1

def grep (fixed : String) (arguments : List Octets) : Act Nat :=
  let table : OptionTable :=
    { utility := "grep", letters := "EFGPivwxclLqsnbHhorRazyIUT", valued := "efmABC12dD"
      status := 2, usage? := some grepUsage
      names := [("extended-regexp", 'E'), ("fixed-strings", 'F'), ("basic-regexp", 'G'),
        ("ignore-case", 'i'), ("invert-match", 'v'), ("word-regexp", 'w'), ("line-regexp", 'x'),
        ("count", 'c'), ("files-with-matches", 'l'), ("files-without-match", 'L'), ("quiet", 'q'),
        ("silent", 'q'), ("no-messages", 's'), ("line-number", 'n'), ("with-filename", 'H'),
        ("no-filename", 'h'), ("only-matching", 'o'), ("recursive", 'r'), ("text", 'a'),
        ("regexp", 'e'), ("file", 'f'), ("max-count", 'm'), ("after-context", 'A'),
        ("before-context", 'B'), ("context", 'C'), ("include", '1'), ("exclude", '2'),
        ("byte-offset", 'b'), ("null-data", 'z'), ("perl-regexp", 'P')] }
  let refuse (text : String) : Act Nat := do
    Act.warn ("grep: " ++ text)
    return 2
  table.run (withContextOption arguments) fun a => do
    let options := a.options.map fun (letter, value) =>
      (if letter = 'R' then 'r' else if letter = 'y' then 'i' else letter, value)
    let a := { a with options := fixed.toList.map (fun c => (c, [])) ++ options }
    let limit? := (a.value? 'm').map fun m => (m, m.all Char.isDigit)
    match contextLength a 'B', contextLength a 'A', limit? with
    | .error text, _, _ | _, .error text, _ =>
      refuse (Octets.text text ++ ": invalid context length argument")
    | _, _, some (_, false) => refuse "invalid max count"
    | .ok before, .ok behind, bound? =>
      match ← givenPatterns a with
      | .error (path, e) => do
        reportPlain "grep" path e
        return 2
      | .ok given? =>
        match given?.orElse (fun _ => a.operands.head?) with
        | none => do
          Act.warn grepUsage
          reportHelp "grep"
          return 2
        | some text =>
          let operands := if given?.isSome then a.operands else a.operands.drop 1
          match searchedRegex a text with
          | .error e => refuse e.message
          | .ok regex =>
            let paths ← searchedPaths a operands
            let isBelow := a.has 'r' && paths != operands
            let isNamed := (operands.length > 1 || isBelow || a.has 'H') && !a.has 'h'
            let matchesNothing := given? == some [] && !a.has 'e'
            let g : LineSearch :=
              { regex, ignoringCase := a.has 'i', inverted := a.has 'v', before, behind, isNamed
                bound? := if matchesNothing then some 0
                  else bound?.map fun (m, _) => digitsValue 10 m }
            searchFiles a g paths

end ZoneGuard.Shell
