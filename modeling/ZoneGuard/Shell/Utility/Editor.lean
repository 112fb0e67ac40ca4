import ZoneGuard.Shell.Utility.Editing
import ZoneGuard.Shell.Utility.Lines

/-!
# Editing texts

How edit scripts are carried out: line after line is taken, changed by the commands that are for it,
and printed. What commands hold back or write to files is kept until the line or the text is done.
-/

namespace ZoneGuard.Shell

open Files (OsError)

structure InputLine where
  text : Octets
  /-- Whether a line feed follows it. -/
  isEnded : Bool := true
  /-- The file that it comes from. -/
  path : Octets := ['-']

def inputLines (ending : Char) (path content : Octets) : List InputLine :=
  let lines := linesBy ending content
  let isWhole := content.getLast? == some ending
  lines.zipIdx.map fun (text, i) => { text, isEnded := isWhole || i + 1 < lines.length, path }

inductive OpenRange where
  /-- Ends at the line with the number. -/
  | upTo (number : Nat)
  | upToFound

structure Editor where
  silent : Bool := false
  ending : Char := '\n'
  /-- The width at which listed lines are cut. -/
  width : Nat := 70
  contentOf : Octets → Octets := fun _ => []
  rest : List InputLine
  line : InputLine := { text := [] }
  number : Nat := 0
  held : Octets := []
  /-- Whether something was replaced in the current line since the last branch on that. -/
  wasReplaced : Bool := false
  lastRegex? : Option (Regex × Bool) := none
  /-- What is printed behind the current line. -/
  appended : List Octets := []
  /-- What was printed, the latest part first, and whether the last line lacks its end. -/
  printed : List Octets := []
  isUnended : Bool := false
  /-- What was written to files, the latest part first. -/
  written : List (Octets × Octets) := []
  ranges : List (Nat × OpenRange) := []
  status : Nat := 0
  hasQuit : Bool := false
  /-- Whether editing did not come to an end in the steps it had. -/
  isEndless : Bool := false

/-- How a line goes on after a command. -/
inductive EditFlow where
  /-- With the command at a place. -/
  | goOn (place : Nat)
  /-- With the next line; the current one is printed if lines are. -/
  | lineEnd (prints : Bool)
  /-- With the first command on what is left of the line. -/
  | again

namespace Editor

/-- Prints a text that ends a line or not. -/
def put (e : Editor) (text : Octets) (isEnded : Bool) : Editor :=
  let gap : List Octets := if e.isUnended then [[e.ending]] else []
  { e with
    printed := (if isEnded then text ++ [e.ending] else text) :: (gap ++ e.printed)
    isUnended := !isEnded }

def putLine (e : Editor) : Editor := e.put e.line.text e.line.isEnded

def writeLine (e : Editor) (path text : Octets) : Editor :=
  if path = "/dev/stdout".toList then e.put text true
  else { e with written := (path, text ++ [e.ending]) :: e.written }

/-- Prints what was to come behind the current line. -/
def flush (e : Editor) : Editor :=
  let printed := e.appended.foldl (fun (e : Editor) text =>
    if text.isEmpty then e
    else
      let gap : List Octets := if e.isUnended then [[e.ending]] else []
      { e with printed := text :: (gap ++ e.printed), isUnended := false }) e
  { printed with appended := [] }

/-- Takes the next line. The texts behind the current one are printed before. -/
def advance (e : Editor) : Option Editor :=
  match e.rest with
  | [] => none
  | line :: rest =>
    some { e.flush with line, rest, number := e.number + 1, wasReplaced := e.wasReplaced }

def isLast (e : Editor) : Bool := e.rest.isEmpty

/-- The expression that is meant, which is then the last one used. -/
def useRegex (e : Editor) (r? : Option Regex) (ignoringCase : Bool) :
    Option (Regex × Bool) × Editor :=
  match r? with
  | some r => (some (r, ignoringCase), { e with lastRegex? := some (r, ignoringCase) })
  | none => (e.lastRegex?, e)

def isAt (e : Editor) : Address → Bool × Editor
  | .line n => (n == e.number, e)
  | .step first step =>
    (if step = 0 then e.number == first else first ≤ e.number && (e.number - first) % step == 0, e)
  | .last => (e.isLast, e)
  | .holding r? ignoringCase =>
    match e.useRegex r? ignoringCase with
    | (some (r, ignoringCase), e) => (r.isFoundIn ignoringCase e.line.text, e)
    | (none, e) => (false, e)

/-- The editor with the range of the command at a place begun or ended. -/
def setRange (e : Editor) (place : Nat) (range? : Option OpenRange) : Editor :=
  { e with ranges := (range?.map (place, ·)).toList ++ e.ranges.filter (·.1 != place) }

/-- Whether the current line is in the range of the command at a place, which has begun. -/
def isInside (e : Editor) (place : Nat) (last : RangeEnd) : OpenRange → Bool × Editor
  | .upTo number =>
    (e.number ≤ number, if number ≤ e.number then e.setRange place none else e)
  | .upToFound =>
    match last with
    | .at a =>
      let (ends, e) := e.isAt a
      (true, if ends then e.setRange place none else e)
    | _ => (true, e)

/-- Whether the command at a place is for the current line, and whether more lines of its range may
follow. -/
def isSelected (e : Editor) (place : Nat) (c : EditCommand) : Bool × Editor :=
  match c.first?, c.last? with
  | none, _ => (true, e)
  | some first, none => e.isAt first
  | some first, some last =>
    match e.ranges.lookup place with
    | some range => e.isInside place last range
    | none =>
      let (begins, e) := match first with
        | .line 0 => (e.number == 1, e)
        | first => e.isAt first
      if !begins then (false, e)
      else
        let upTo (n : Nat) : Bool × Editor :=
          (true, if n ≤ e.number then e else e.setRange place (some (.upTo n)))
        match first, last with
        | .line 0, last => (e.setRange place (some .upToFound)).isInside place last .upToFound
        | _, .plus count => upTo (e.number + count)
        | _, .multiple n => upTo (if n = 0 then 0 else (e.number + n - 1) / n * n)
        | _, .at (.line n) => upTo n
        | _, .at _ => (true, e.setRange place (some .upToFound))

def visibleChar (c : Char) : Octets :=
  let escape? : Option Char := match c with
    | '\\' => some '\\'
    | '\x07' => some 'a'
    | '\x08' => some 'b'
    | '\x0c' => some 'f'
    | '\n' => some 'n'
    | '\r' => some 'r'
    | '\t' => some 't'
    | '\x0b' => some 'v'
    | _ => none
  match escape? with
  | some e => ['\\', e]
  | none =>
    if ' ' ≤ c && c ≤ '~' then [c]
    else
      let digits := Nat.toDigits 8 c.toNat
      '\\' :: (List.replicate (3 - digits.length) '0' ++ digits)

/-- A line in a form that can be seen, cut into lines of a width. -/
def listed (width : Nat) (text : Octets) : Octets :=
  let (out, _) := text.foldl (fun (out, column) c =>
    let shown := visibleChar c
    if 1 < width && width - 1 < column + shown.length then
      (out ++ ['\\', '\n'] ++ shown, shown.length)
    else (out ++ shown, column + shown.length)) (([] : Octets), 0)
  out ++ ['$']

def setText (e : Editor) (text : Octets) : Editor := { e with line := { e.line with text } }

/-- Takes the next line in place of the current one or behind it. Where there is none, editing
ends. -/
def takeNext (e : Editor) (place : Nat) (joins : Bool) : Editor × EditFlow :=
  let old := e.line.text
  if e.rest.isEmpty then ({ e with hasQuit := true }, .lineEnd true)
  else
    let e := if joins || e.silent then e else e.putLine
    match e.advance with
    | none => (e, .lineEnd true)
    | some e =>
      (if joins then e.setText (old ++ '\n' :: e.line.text) else e, .goOn (place + 1))

def apply (e : Editor) (commands : Array EditCommand) (place : Nat) (c : EditCommand) :
    Editor × EditFlow :=
  let next := EditFlow.goOn (place + 1)
  let text := e.line.text
  let firstLine := text.takeWhile (· != '\n')
  match c.edit with
  | .print => (e.putLine, next)
  | .printFirst => (e.put firstLine true, next)
  | .number => (e.put (toString e.number).toList true, next)
  | .list => (e.put (listed e.width text) true, next)
  | .path => (e.put e.line.path true, next)
  | .delete => (e, .lineEnd false)
  | .deleteFirst =>
    if firstLine.length = text.length then (e, .lineEnd false)
    else (e.setText (text.drop (firstLine.length + 1)), .again)
  | .clear => (e.setText [], next)
  | .next => e.takeNext place false
  | .appendNext => e.takeNext place true
  | .hold => ({ e with held := text }, next)
  | .holdMore => ({ e with held := e.held ++ '\n' :: text }, next)
  | .get => (e.setText e.held, next)
  | .getMore => (e.setText (text ++ '\n' :: e.held), next)
  | .exchange => ({ e.setText e.held with held := text }, next)
  | .append text => ({ e with appended := e.appended ++ [text] }, next)
  | .insert text => (e.put text.dropLast true, next)
  | .change text =>
    let goesOn := (e.ranges.lookup place).isSome && !c.negated
    (if goesOn then e else e.put text.dropLast true, .lineEnd false)
  | .replace s =>
    match e.useRegex s.regex? s.ignoringCase with
    | (none, e) => (e, next)
    | (some (r, ignoringCase), e) =>
      let (text, isFound) :=
        { s with ignoringCase }.apply r (text.length + 2) 1 false none text
      if !isFound then (e, next)
      else
        let e := { e.setText text with wasReplaced := true }
        let e := if s.alsoPrint then e.putLine else e
        ((s.file?.map fun path => e.writeLine path text).getD e, next)
  | .translate first second =>
    let change (c : Char) : Char := second.getD (first.idxOf c) c
    (e.setText (text.map change), next)
  | .label _ => (e, next)
  | .goto ifReplaced? label =>
    let target := if label.isEmpty then commands.size
      else
        (commands.findIdx? fun c => match c.edit with
          | .label name => name == label
          | _ => false).getD commands.size
    match ifReplaced? with
    | none => (e, .goOn target)
    | some wanted =>
      let goes := e.wasReplaced == wanted
      ({ e with wasReplaced := false }, if goes then .goOn target else next)
  | .quit status => ({ e with status, hasQuit := true }, .lineEnd true)
  | .leave status => ({ e with status, hasQuit := true, appended := [] }, .lineEnd false)
  | .read path => ({ e with appended := e.appended ++ [e.contentOf path] }, next)
  | .write path => (e.writeLine path text, next)
  | .writeFirst path => (e.writeLine path firstLine, next)
  | .block _ => (e, next)

/-- Carries out the commands from a place on, and those for all lines that follow. Each step is a
command or the end of a line. -/
def run (commands : Array EditCommand) : Nat → Nat → Editor → Editor
  | 0, _, e => { e with isEndless := true }
  | steps + 1, place, e =>
    match commands[place]? with
    | some c =>
      let (selects, e) := e.isSelected place c
      if selects == c.negated then
        let skipped := match c.edit with
          | .block count => count
          | _ => 0
        run commands steps (place + 1 + skipped) e
      else
        match e.apply commands place c with
        | (e, .goOn place) => run commands steps place e
        | (e, .again) => run commands steps 0 e.flush
        | (e, .lineEnd prints) => finishLine commands steps prints e
    | none => finishLine commands steps true e
where
  /-- Ends the current line and begins the next. -/
  finishLine (commands : Array EditCommand) (steps : Nat) (prints : Bool) (e : Editor) : Editor :=
    let e := if prints && !e.silent then e.putLine else e
    let e := e.flush
    if e.hasQuit then e
    else
      match e.advance with
      | none => e
      | some e => run commands steps 0 { e with wasReplaced := false }

def edit (e : Editor) (commands : List EditCommand) (steps : Nat) : Editor :=
  match e.advance with
  | none => e
  | some e => run commands.toArray steps 0 e

def output (e : Editor) : Octets := e.printed.reverse.flatten

end Editor

/-! ### The utility -/

/-- A part of a script: a text, or the content of a file. -/
structure ScriptPart where
  text : Octets
  file? : Option Octets := none

/-- The place in the parts of a script that so many characters of it lead to. -/
def scriptPlace : Nat → List ScriptPart → Nat → String
  | _, [], _ => ""
  | index, part :: rest, count =>
    if part.text.length < count && !rest.isEmpty then
      let index := if part.file?.isSome then index else index + 1
      scriptPlace index rest (count - part.text.length - 1)
    else
      match part.file? with
      | some path =>
        let line := (part.text.take (count - 1)).count '\n' + 1
        "file " ++ Octets.text path ++ " line " ++ toString line
      | none => "-e expression #" ++ toString index ++ ", char " ++ toString count

/-- The commands of the parts of a script, or what is wrong with it, with the status. -/
def scriptCommands (extended : Bool) (parts : List ScriptPart) :
    Except (String × Nat) (List EditCommand) :=
  let text := ['\n'].intercalate (parts.map (·.text))
  match editCommands extended (text.length + 1) false text with
  | .error fault =>
    let count := text.length - fault.rest.length
    let place := if fault.isOpen then "-e expression #1, char 0" else scriptPlace 1 parts count
    .error (place ++ ": " ++ fault.text, 1)
  | .ok (commands, _) =>
    match missingLabels commands with
    | label :: _ => .error ("can't find label for jump to \x60" ++ Octets.text label ++ "'", 4)
    | [] => .ok commands

/-- The arguments, in which the ending that a letter may have right behind it stands by itself. -/
def withBackupOption (arguments : List Octets) : List Octets :=
  arguments.flatMap fun argument => match argument with
    | '-' :: '-' :: name =>
      if "in-place=".toList.isPrefixOf name then ["-i".toList, "-B".toList, name.drop 9]
      else [argument]
    | '-' :: letters =>
      let flags := letters.takeWhile "nrEsuz".toList.contains
      match letters.drop flags.length with
      | 'i' :: c :: rest => [('-' :: flags) ++ ['i'], "-B".toList, c :: rest]
      | _ => [argument]
    | argument => [argument]

/-- The path under which a file is kept before it is changed. -/
def backupPath (ending path : Octets) : Octets :=
  let name := (path.reverse.takeWhile (· != '/')).reverse
  let front := path.take (path.length - name.length)
  if ending.contains '*' then front ++ Text.replaceAll ['*'] name ending else path ++ ending

/-- The greatest number of steps that editing may take besides some for each character. -/
def editSteps : Nat := 1000000

/-- The parts of the script that options give, or the path that cannot be read. -/
def scriptParts (a : Arguments) : Act (Except (Octets × OsError) (List ScriptPart)) := do
  let mut parts : List ScriptPart := []
  for (letter, value) in a.options do
    if letter = 'e' then
      parts := parts ++ [{ text := value }]
    else if letter = 'f' then
      match ← Act.readOperand value with
      | .error e => return .error (value, e)
      | .ok content =>
        let text := if content.getLast? == some '\n' then content.dropLast else content
        parts := parts ++ [{ text, file? := some value }]
  return .ok parts

def writeEdited (e : Editor) : Act Unit := do
  for (path, text) in e.written.reverse do
    if path = "/dev/stderr".toList then Act.withoutFaults (Act.write 2 text)
    else discard (Act.writeFile path text true)

def editInPlace (a : Arguments) (commands : List EditCommand) (e : Editor) (paths : List Octets) :
    Act Nat := do
  let mut status := 0
  for path in paths do
    match ← Act.readOperand path with
    | .error .isADirectory => do
      Act.warn ("sed: couldn't edit " ++ Octets.text path ++ ": not a regular file")
      status := 4
    | .error reason => do
      Act.warn ("sed: can't read " ++ Octets.text path ++ ": " ++ reason.reason)
      status := max status 2
    | .ok content => do
      let lines := inputLines e.ending path content
      let edited := { e with rest := lines }.edit commands (editSteps + 20 * content.length)
      if edited.isEndless then throw .timedOut
      writeEdited edited
      if let some ending := a.value? 'B' then
        discard (Act.writeFile (backupPath ending path) content false)
      discard (Act.writeFile path edited.output false)
      status := max status edited.status
      if edited.hasQuit then return status
  return status

/-- Edits files as one text or one by one, and prints the results. -/
def editAll (a : Arguments) (commands : List EditCommand) (e : Editor) (paths : List Octets) :
    Act Nat := do
  let mut status := 0
  let mut texts : List (List InputLine) := []
  for path in if paths.isEmpty then [['-']] else paths do
    match ← Act.readOperand path with
    | .error .isADirectory => do
      Act.warn ("sed: read error on " ++ Octets.text path ++ ": Is a directory")
      return 4
    | .error reason => do
      Act.warn ("sed: can't read " ++ Octets.text path ++ ": " ++ reason.reason)
      status := 2
    | .ok content => texts := texts ++ [inputLines e.ending path content]
  let groups := if a.has 's' then texts else [texts.flatten]
  let mut editor := e
  for lines in groups do
    let size := lines.foldl (fun n line => n + line.text.length + 1) 0
    editor := { editor with rest := lines, number := 0 }.edit commands (editSteps + 20 * size)
    Act.print editor.output
    if editor.isEndless then throw .timedOut
    writeEdited editor
    editor := { editor with printed := [], written := [] }
    if editor.hasQuit then return editor.status
  return max status editor.status

def writtenPaths (commands : List EditCommand) : List Octets :=
  (commands.filterMap fun c => match c.edit with
    | .write path | .writeFirst path => some path
    | .replace s => s.file?
    | _ => none).filter fun path => (descriptorPath? path).isNone

def sed (arguments : List Octets) : Act Nat :=
  let table : OptionTable :=
    { utility := "sed", letters := "nrEsuzi", valued := "efBl"
      usage? := some
        "Usage: sed [OPTION]... \x7bscript-only-if-no-other-script\x7d [input-file]...\n"
      names := [("quiet", 'n'), ("silent", 'n'), ("expression", 'e'), ("file", 'f'),
        ("regexp-extended", 'E'), ("in-place", 'i'), ("separate", 's'), ("null-data", 'z'),
        ("unbuffered", 'u'), ("line-length", 'l')] }
  let refuse (text : String) (status : Nat) : Act Nat := do
    Act.warn ("sed: " ++ text)
    return status
  table.run (withBackupOption arguments) fun a => do
    match ← scriptParts a with
    | .error (path, e) =>
      refuse ("couldn't open file " ++ Octets.text path ++ ": " ++ e.reason) 4
    | .ok given =>
      match given, a.operands with
      | [], [] => do
        Act.warn (table.usage?.getD "")
        return 1
      | given, operands =>
        let parts := if given.isEmpty then [{ text := operands.headD [] }] else given
        let paths := if given.isEmpty then operands.drop 1 else operands
        match scriptCommands (a.hasAny "rE") parts with
        | .error (fault, status) => refuse fault status
        | .ok commands =>
          for path in writtenPaths commands do
            match ← Act.writeFile path [] false with
            | none => pure ()
            | some e =>
              return ← refuse ("couldn't open file " ++ Octets.text path ++ ": " ++ e.reason) 4
          let s ← get
          let contentOf (path : Octets) : Octets :=
            match s.tree.read s.current (Octets.text path) with
            | .ok content => Octets.ofBytes content
            | .error _ => []
          let silent := a.has 'n' || (parts.head?.map (·.text.take 3)) == some ['#', 'n', '\n']
          let e : Editor :=
            { silent, ending := if a.has 'z' then '\x00' else '\n', contentOf, rest := []
              width := numberOr 70 ((a.value? 'l').getD []) }
          if a.has 'i' then editInPlace a commands e paths else editAll a commands e paths

end ZoneGuard.Shell
