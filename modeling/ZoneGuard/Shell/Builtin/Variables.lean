import ZoneGuard.Shell.Builtin.Control
import ZoneGuard.Shell.Expansion
import ZoneGuard.Shell.Utility.Running

/-!
# Variables

The builtin utilities that set, mark, list and read variables, parameters and options.
-/

namespace ZoneGuard.Shell

/-! ### Names and values -/

def isVariableName (name : Octets) : Bool := name.head?.any isNameStart && name.all isNameChar

/-- Fails if the text is no name of a variable. -/
def checkName (name : Octets) : Act Unit := do
  if !isVariableName name then Act.abort (Octets.text name ++ ": bad variable name")

/-- Sets a variable, whose name has to be one. -/
def assign (name value : Octets) : Act Unit := do
  checkName name
  Act.setVariable name value

/-- The text in quotes as a script would have it: single ones, but double ones around single
quotes. -/
def singleQuoted (text : Octets) : Octets := '\'' :: inSingle text
where
  /-- The rest of a text inside single quotes. -/
  inSingle : Octets → Octets
    | [] => ['\'']
    | '\'' :: cs => ['\'', '"', '\''] ++ inDouble cs
    | c :: cs => c :: inSingle cs
  /-- The rest of a text inside double quotes. -/
  inDouble : Octets → Octets
    | [] => ['"']
    | '\'' :: cs => '\'' :: inDouble cs
    | c :: cs => ['"', '\'', c] ++ inSingle cs

/-- Prints names in order, each with its value if it has one. -/
def printVariables (beginning : String) (names : List Octets) : Act Unit := do
  let s ← get
  for name in names.mergeSort Octets.isAtMost do
    let shown := match s.bindings.lookup name with
      | some value => name ++ '=' :: singleQuoted value
      | none => name
    Act.printLine (octets beginning ++ shown)

def markVariables (mark : Octets → Act Unit) : List Octets → Act Nat
  | [] => return 0
  | field :: fields => do
    match fieldAssignment? field with
    | some (name, value) => do
      assign name value
      mark name
    | none => do
      checkName field
      mark field
    markVariables mark fields

def exportVariables (arguments : List Octets) : Act Nat :=
  withLetters "p" arguments fun letters fields => do
    if fields.isEmpty || letters.contains 'p' then do
      let s ← get
      printVariables "export " s.exported.eraseDups
      return 0
    else
      markVariables (fun name => modify fun s =>
        { s with exported := name :: s.exported.filter (· != name) }) fields

def makeConstants (arguments : List Octets) : Act Nat :=
  withLetters "p" arguments fun letters fields => do
    if fields.isEmpty || letters.contains 'p' then do
      let s ← get
      printVariables "readonly " s.constants
      return 0
    else
      markVariables (fun name => modify fun s =>
        { s with constants := name :: s.constants.filter (· != name) }) fields

/-- The utility `local`, which makes variables a function's own. -/
def makeLocal (fields : List Octets) : Act Nat := do
  let s ← get
  match s.hidden? with
  | none => Act.abort "not in a function"
  | some hidden => do
    let names := (fields.map (Text.beforeFirst '=')).filter fun name =>
      (hidden.lookup name).isNone
    let more := names.map fun name => (name, s.bindings.lookup name)
    set { s with hidden? := some (hidden ++ more) }
    for field in fields do
      if let some (name, value) := fieldAssignment? field then assign name value
    return 0

def unset (arguments : List Octets) : Act Nat :=
  withLetters "vf" arguments fun letters names => do
    for name in names do
      if letters.getLast? == some 'f' then
        modify fun s => { s with functions := s.functions.filter (·.1 != name) }
      else do
        checkName name
        let s ← get
        if s.constants.contains name then Act.abort (Octets.text name ++ ": is read only")
        modify fun s => { s with toScope := s.toScope.without name }
    return 0

def setOptions (arguments : List Octets) : Act Nat := do
  if arguments.isEmpty then do
    let s ← get
    printVariables "" (s.bindings.map (·.1)).eraseDups
    return 0
  else do
    let r ← takeShellOptions false arguments.length { operands := arguments }
    if r.isCleared || !r.operands.isEmpty then
      modify fun s => { s with parameters := r.operands, nextOption := 1, lettersRead := 0 }
    return 0

/-! ### Options of scripts -/

structure OptionStep where
  /-- The letter, or what stands for a fault. -/
  letter : Char
  /-- The value that `OPTARG` gets; it is unset if there is none. -/
  value? : Option Octets := some []
  /-- What is said of a fault. -/
  fault? : Option String := none
  /-- The place of the next argument, and how many letters of the one before have been read. -/
  nextOption : Nat
  lettersRead : Nat := 0
  isOver : Bool := false

/-- Whether an option takes a value, if it is among the known ones. -/
def takesValue? (known : Octets) (letter : Char) : Option Bool :=
  match known with
  | [] => none
  | c :: ':' :: rest => if c = letter then some true else takesValue? rest letter
  | c :: rest => if c = letter then some false else takesValue? rest letter

/-- Reads one option from arguments, of which some are behind already. -/
def optionStep (known : Octets) (arguments : List Octets) (nextOption lettersRead : Nat) :
    OptionStep :=
  let isQuiet := known.head? == some ':'
  let current := arguments.getD (nextOption - 2) []
  let started :=
    if 2 ≤ nextOption && lettersRead != 0 then current.drop lettersRead else []
  let finished (nextOption : Nat) : OptionStep :=
    { letter := '?', value? := some [], nextOption, isOver := true }
  let take (letters : Octets) (nextOption read : Nat) : OptionStep :=
    match letters with
    | [] => finished nextOption
    | c :: cs =>
      let lettersRead := if cs.isEmpty then 0 else read + 1
      match takesValue? known c with
      | none =>
        if isQuiet then { letter := '?', value? := some [c], nextOption, lettersRead }
        else
          { letter := '?', value? := none, nextOption, lettersRead
            fault? := some ("Illegal option -" ++ String.singleton c) }
      | some false => { letter := c, nextOption, lettersRead }
      | some true =>
        if !cs.isEmpty then { letter := c, value? := some cs, nextOption }
        else
          match arguments[nextOption - 1]? with
          | some value => { letter := c, value? := some value, nextOption := nextOption + 1 }
          | none =>
            if isQuiet then { letter := ':', value? := some [c], nextOption }
            else
              { letter := '?', value? := none, nextOption
                fault? := some ("No arg for -" ++ String.singleton c ++ " option") }
  if !started.isEmpty then take started nextOption lettersRead
  else
    match arguments[nextOption - 1]? with
    | some ['-', '-'] => finished (nextOption + 1)
    | some ('-' :: c :: cs) => take (c :: cs) (nextOption + 1) 1
    | _ => finished nextOption

def getopts (arguments : List Octets) : Act Nat := do
  match arguments with
  | known :: name :: rest => do
    let s ← get
    let words := if rest.isEmpty then s.parameters else rest
    let nextOption := if words.length + 1 < s.nextOption then 1 else max 1 s.nextOption
    let step := optionStep known words nextOption s.lettersRead
    if let some fault := step.fault? then Act.warn fault
    if !step.isOver then
      match step.value? with
      | some value => Act.setVariable "OPTARG".toList value
      | none => modify fun s => { s with toScope := s.toScope.without "OPTARG".toList }
    Act.setVariable "OPTIND".toList (numeral step.nextOption)
    modify fun s => { s with nextOption := step.nextOption, lettersRead := step.lettersRead }
    assign name [step.letter]
    return if step.isOver then 1 else 0
  | _ => Act.abort "Usage: getopts optstring var [arg...]"

/-! ### Reading -/

/-- A line that is read: its characters, each with whether it may separate fields, how many octets
it took, and whether it was ended. -/
structure ReadLine where
  chars : List (Char × Bool) := []
  size : Nat := 0
  isEnded : Bool := false

/-- The first line of a text with its continued lines. In a raw line backslashes have no meaning. -/
def ReadLine.ofText (isRaw : Bool) : Octets → ReadLine
  | [] => {}
  | '\n' :: _ => { size := 1, isEnded := true }
  | '\x00' :: rest =>
    let line := ofText isRaw rest
    { line with size := line.size + 1 }
  | '\\' :: c :: rest =>
    if isRaw then
      if c = '\n' then { chars := [('\\', true)], size := 2, isEnded := true }
      else
        let line := ofText isRaw rest
        { line with chars := ('\\', true) :: (c, true) :: line.chars, size := line.size + 2 }
    else
      let line := ofText isRaw rest
      { line with
        chars := if c = '\n' then line.chars else (c, false) :: line.chars
        size := line.size + 2 }
  | c :: rest =>
    let line := ofText isRaw rest
    let chars := if c = '\\' && !isRaw then line.chars else (c, true) :: line.chars
    { line with chars, size := line.size + 1 }

def isBlankSeparator (separators : Octets) (p : Char × Bool) : Bool :=
  p.2 && separators.contains p.1 && " \t\n".toList.contains p.1

def isSeparator (separators : Octets) (p : Char × Bool) : Bool := p.2 && separators.contains p.1

/-- What follows a field, without the separator at its beginning. -/
def behindSeparator (separators : Octets) (chars : List (Char × Bool)) : List (Char × Bool) :=
  let isBlank := isBlankSeparator separators
  match chars.dropWhile isBlank with
  | p :: rest => if isSeparator separators p then rest.dropWhile isBlank else p :: rest
  | [] => []

/-- The values of as many names as given: a field each, and what is left for the last, which is a
field too if no others follow it. -/
def lineFields (separators : Octets) : Nat → List (Char × Bool) → List Octets
  | 0, _ => []
  | names + 1, chars =>
    let isBlank := isBlankSeparator separators
    let chars := chars.dropWhile isBlank
    let field := chars.takeWhile fun p => !isSeparator separators p
    let rest := behindSeparator separators (chars.drop field.length)
    if names = 0 && !rest.isEmpty then
      [((chars.reverse.dropWhile isBlank).reverse).map (·.1)]
    else field.map (·.1) :: lineFields separators names rest

def read (arguments : List Octets) : Act Nat := do
  match takeOptions ['r'] ['p'] arguments with
  | .error fault => Act.abort fault
  | .ok (options, names) => do
    if names.isEmpty then Act.abort "arg count"
    let line := ReadLine.ofText (options.any (·.1 == 'r')) (← Act.remaining 0)
    Act.skip 0 line.size
    for (name, value) in names.zip (lineFields (← separators) names.length line.chars) do
      assign name value
    return if line.isEnded then 0 else 1

example : singleQuoted "a'b".toList = "'a'\"'\"'b'".toList := by decide

end ZoneGuard.Shell
