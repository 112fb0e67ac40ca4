import ZoneGuard.Shell.Builtin
import ZoneGuard.Shell.Job

/-!
# Running scripts

Commands are run on the state of a shell, in which time is counted and not spent. Stages of a pipe
run one after the other, and what a name stands for is looked up as it is called. The depth to which
commands may be nested is bounded, as is the time that a script may take, so that every run ends.
This only serves the program that runs: no theorem depends on what a script does.
-/

namespace ZoneGuard.Shell

open Files (OsError)

/-- The time that a command takes besides the time that it waits, in microseconds. -/
def commandTime : Nat := 20

def programTime : Nat := 500

/-! ### Loops -/

/-- What becomes of a loop when a step of it stops: the state in which the next round begins, or the
end of the loop. -/
def roundEnd (result : Except Stop Nat) : Option (Except Stop Nat) :=
  match result with
  | .ok _ => none
  | .error (.again n) => if n ≤ 1 then none else some (.error (.again (n - 1)))
  | .error (.leave n) => some (if n ≤ 1 then .ok 0 else .error (.leave (n - 1)))
  | .error e => some (.error e)

/-- The status that a step gave; zero if it stopped. -/
def statusOf : Except Stop Nat → Nat
  | .ok status => status
  | .error _ => 0

/-- Repeats a body while its condition succeeds, or until it does. -/
def repeatBody (whileTrue : Bool) (condition body : Act Nat) : Nat → Nat → Act Nat
  | 0, _ => throw .timedOut
  | rounds + 1, status => fun s =>
    match condition s with
    | (.ok c, s) =>
      if (c == 0) != whileTrue then (.ok status, s)
      else
        match body s with
        | (result, s) =>
          match roundEnd result with
          | some ended => (ended, s)
          | none => repeatBody whileTrue condition body rounds (statusOf result) s
    | (result, s) =>
      match roundEnd result with
      | some ended => (ended, s)
      | none => repeatBody whileTrue condition body rounds 0 s

def forEach (name : Octets) (body : Act Nat) : Nat → List Octets → Act Nat
  | status, [] => return status
  | _, value :: values => do
    Act.setVariable name value
    fun s =>
      match body s with
      | (result, s) =>
        match roundEnd result with
        | some ended => (ended, s)
        | none => forEach name body (statusOf result) values s

def insideLoop (act : Act Nat) : Act Nat := fun s =>
  let (result, after) := act { s with loops := s.loops + 1 }
  (result, { after with loops := s.loops })

/-- More rounds than a loop can take in the time that is left. -/
def roundBound (s : State) : Nat := s.limit / commandTime + 1

section

variable (fresh : List Command → Act Nat)

/-! ### Shells -/

/-- Runs a step as a part of the shell that is a process of its own. -/
def inSubshell (act : Act Nat) : Act Nat := do
  modify fun s => { s with traps := s.traps.filter (·.2.isEmpty) }
  atExit fresh act

/-- The directories in which a shell looks for programs if nothing else is said. -/
def defaultDirectories : String := "/usr/local/sbin:/usr/local/bin:/usr/sbin:/usr/bin:/sbin:/bin"

def startVariables (s : Scope) (place : Octets) : Variables :=
  let base := s.environment.set "PWD".toList place
  let given := [("IFS", " \t\n"), ("OPTIND", "1"), ("PPID", toString (s.ancestors.headD 1))]
  let missing := [("PS1", "# "), ("PS2", "> "), ("PS4", "+ "), ("PATH", defaultDirectories)].filter
    fun (name, _) => (base.lookup name.toList).isNone
  (given ++ missing).foldl (fun bindings (name, value) =>
    bindings.set name.toList (octets value)) base

/-- The place that a shell starts at: the one that the environment tells, if it is true. -/
def startPlace (s : State) : Octets :=
  let physical := octets s.current.path
  match s.toScope.environment.lookup "PWD".toList with
  | some place =>
    match s.tree.locate true [] (Octets.text place) with
    | .ok (location, .directory) =>
      if location = s.current && place.head? == some '/' then place else physical
    | _ => physical
  | none => physical

def startScope (s : State) (name : Octets) : Scope :=
  let place := startPlace s
  { current := s.current, place, descriptors := s.descriptors, name, parameters := []
    bindings := startVariables s.toScope place
    exported := "PWD".toList :: s.exported.filter (· != "PWD".toList)
    traps := s.traps.filter (·.2.isEmpty)
    mask := s.mask, line := 0, number := s.number, shell := s.number, ancestors := s.ancestors }

def runShell (name : Octets) (arguments : List Octets) : Act Nat := do
  modify fun s => { s with toScope := startScope s name }
  let r ← takeShellOptions true arguments.length { operands := arguments }
  let s ← get
  if r.hasScript then
    match r.operands with
    | [] => Act.abort "-c requires an argument"
    | text :: rest => do
      set { s with name := rest.headD name, parameters := rest.drop 1 }
      atExit fresh (runText fresh text)
  else
    match if s.has 's' then none else r.operands.head? with
    | none => do
      switchOption true 's'
      modify fun s => { s with parameters := r.operands }
      let text ← Act.readAll 0
      atExit fresh (runText fresh text)
    | some path => do
      match ← Act.readOperand path with
      | .ok text => do
        modify fun s => { s with name := path, parameters := r.operands.drop 1 }
        atExit fresh (runText fresh text)
      | .error .isADirectory => return 0
      | .error e => do
        reportUnread path e
        return 2

/-! ### Programs -/

def locateProgram (name : Octets) : Act (Except OsError (String × Option Files.Execution)) := do
  let s ← get
  let directories := (s.bindings.lookup "PATH".toList).getD []
  return s.tree.called s.current (Octets.text directories) (Octets.text name)

def maxStarts : Nat := 64

/-- Finds the program of a name, which then runs as a process of its own. A file that is no program
is a script. -/
def startProgram : Nat → Octets → List Octets → Act (Except OsError (Act Ending))
  | 0, _, _ => return .error .argumentsTooLong
  | starts + 1, name, arguments => do
    let inPlace : Starter := fun name arguments => do
      match ← startProgram starts name arguments with
      | .error e => return .error e
      | .ok act => return .ok do
        match ← act with
        | .exited status => return status
        | .killed signal => throw (.killed signal)
    match ← locateProgram name with
    | .error e => return .error e
    | .ok (path, none) =>
      let path := octets path
      return .ok (Act.isolate (runShell fresh path (path :: arguments)))
    | .ok (_, some x) =>
      let all := x.front.map octets ++ arguments
      let called := if x.front.isEmpty then name else octets x.name
      if shellNames.contains x.program then return .ok (Act.isolate (runShell fresh called all))
      else
        match program? inPlace x.program with
        | some utility => return .ok (Act.isolate (reportingWrites x.program (utility all)))
        | none => return .error .notFound

/-- Remembers where the program of a name has been found. -/
def remember (name : Octets) : Act Unit := do
  if !name.contains '/' then
    if let .ok (path, _) ← locateProgram name then
      modify fun s =>
        { s with found := (name, octets path) :: s.found.filter (·.1 != name) }

/-- Reports that a program could not be started. -/
def reportUnstarted (name : Octets) (e : OsError) : Act Unit :=
  Act.complain (Octets.text name ++ ": " ++ openingReason "not found" e)

/-- The status that stands for a program that could not be started. -/
def refusedStatus (e : OsError) : Nat :=
  if [OsError.notFound, .notADirectory, .tooManyLinks, .nameTooLong].contains e then 127 else 126

def callProgram (name : Octets) (arguments : List Octets) : Act Nat := do
  match ← startProgram fresh maxStarts name arguments with
  | .ok act => do
    remember name
    Act.wait programTime
    endingStatus (← act)
  | .error e => do
    reportUnstarted name e
    return if name.contains '/' then refusedStatus e else 127

/-- The utility `exec`, which makes the shell another program, if it is given one. -/
def replaceShell (arguments : List Octets) : Act Nat := do
  match arguments with
  | [] => return 0
  | name :: rest =>
    match ← startProgram fresh maxStarts name rest with
    | .ok act => do
      modify fun s => { s with traps := [] }
      match ← act with
      | .exited status => throw (.exit status)
      | .killed signal => throw (.killed signal)
    | .error e => do
      reportUnstarted name e
      throw (.exit (refusedStatus e))

/-! ### Names -/

/-- What a name stands for in a command: a description, which `type` prints behind the name, and
what `command` prints for it. -/
def meaning? (name : Octets) : Act (Option (String × Octets)) := do
  let s ← get
  let text := Octets.text name
  if reservedWords.contains text then return some ("is a shell keyword", name)
  else if specialNames.contains text then return some ("is a special shell builtin", name)
  else if (s.functions.lookup name).isSome then return some ("is a shell function", name)
  else if isBuiltin text then return some ("is a shell builtin", name)
  else if name.contains '/' then
    return if (s.tree.find s.current text).isOk then some ("is " ++ text, name) else none
  else
    match s.found.lookup name with
    | some path => return some ("is a tracked alias for " ++ Octets.text path, path)
    | none =>
      match ← locateProgram name with
      | .ok (path, _) => do
        remember name
        return some ("is " ++ path, octets path)
      | .error _ => return none

/-- The utility `type`, and `command` with an option that asks what a name stands for. -/
def describe (isBrief : Bool) (names : List Octets) : Act Nat :=
  forOperands names fun name => do
    match ← meaning? name with
    | some (text, brief) => do
      Act.printLine (if isBrief then brief else name ++ octets (" " ++ text))
      return 0
    | none => do
      if !isBrief then Act.printLine (name ++ octets ": not found")
      return 127

def hash (arguments : List Octets) : Act Nat :=
  withLetters "rv" arguments fun letters names => do
    if letters.contains 'r' then modify fun s => { s with found := [] }
    let s ← get
    if names.isEmpty && letters.isEmpty then
      for path in (s.found.map (·.2)).mergeSort Octets.isAtMost do
        Act.printLine path
    forOperands names fun name => do
      if isBuiltin (Octets.text name) || (s.functions.lookup name).isSome then return 0
      else
        match ← locateProgram name with
        | .ok _ => do
          remember name
          return 0
        | .error _ => do
          Act.complain (Octets.text name ++ ": not found")
          return 1

/-! ### Simple commands -/

/-- The output of a script, without the line feeds at its end and without zeros. -/
def outputOf (script : List Command) : Act Octets := do
  let (ending, text) ← capture fresh (inSubshell fresh (fresh script))
  let status ← endingStatus ending
  modify fun s => { s with outputStatus? := some status }
  return ((text.filter (· != '\x00')).reverse.dropWhile (· == '\n')).reverse

def assignWords (isExported : Bool) : List (Octets × Word) → Act (List Octets)
  | [] => return []
  | (name, w) :: rest => do
    let value ← wordText (outputOf fresh) w
    Act.setVariable name value
    if isExported then
      modify fun s => { s with exported := name :: s.exported.filter (· != name) }
    return (name ++ '=' :: value) :: (← assignWords isExported rest)

/-- Shows a command on what the standard error was before its redirections, if that is asked for. -/
def trace (descriptors : List (Nat × Nat)) (words : List Octets) : Act Unit := do
  let s ← get
  if s.has 'x' then
    let sign := (s.bindings.lookup "PS4".toList).getD []
    let shown ← Act.inScope (fun s => { s with options := s.options.filter (· != 'x') })
      (wordText (outputOf fresh) (wordOfText sign))
    Act.withDescriptors do
      modify fun s => { s with descriptors }
      Act.withoutFaults (Act.write 2 (shown ++ [' '].intercalate words ++ ['\n']))

/-- Runs a step and then gives variables the values back that they had at first. -/
def keepingVariables (names : List Octets) (act : Act Nat) : Act Nat := fun s =>
  let (result, after) := act s
  if names.isEmpty then (result, after)
  else
    let old := s.bindings.filter fun (name, _) => names.contains name
    let others := after.bindings.filter fun (name, _) => !names.contains name
    let exported := s.exported.filter names.contains
      ++ after.exported.filter fun name => !names.contains name
    (result, { after with bindings := old ++ others, exported })

def unhide (bindings : Variables) (hidden : List (Octets × Option Octets)) : Variables :=
  hidden.foldl (fun bindings (name, value?) =>
    match value? with
    | some value => bindings.set name value
    | none => bindings.filter (·.1 != name)) bindings

end

section

variable (run fresh : List Command → Act Nat)

def maxCalls : Nat := 1000

/-- Runs a function with its arguments as parameters. -/
def callFunction (body : Command) (arguments : List Octets) : Act Nat := fun s =>
  let (result, after) := run [body]
    { s with
      parameters := arguments, loops := 0, calls := s.calls + 1, hidden? := some []
      nextOption := 1, lettersRead := 0 }
  let restored :=
    { after with
      parameters := s.parameters, loops := s.loops, calls := s.calls, hidden? := s.hidden?
      nextOption := s.nextOption, lettersRead := s.lettersRead
      bindings := unhide after.bindings (after.hidden?.getD []) }
  match result with
  | .error (.done status) => (.ok status, restored)
  | result => (result, restored)

/-- Runs the script in a file as a part of the current one. -/
def runFile (path : Octets) : Act Nat := do
  match ← Act.readOperand path with
  | .error e => do
    reportUnread path e
    throw .failed
  | .ok text => fun s =>
    match Act.about path (runText fresh text) s with
    | (.error (.done status), s) => (.ok status, s)
    | result => result

/-- The utility that runs the script in a file, which is looked for like a program. -/
def source (arguments : List Octets) : Act Nat := do
  match arguments with
  | [] => return 0
  | path :: _ =>
    let s ← get
    let directories := (s.bindings.lookup "PATH".toList).getD []
    let paths := Files.searchPaths (Octets.text directories) (Octets.text path)
    let isRegular (path : String) : Bool :=
      match s.tree.find s.current path with
      | .ok (.file _) => true
      | _ => false
    if path.contains '/' then runFile fresh path
    else
      match paths.find? isRegular with
      | some found => runFile fresh (octets found)
      | none => Act.abort (Octets.text path ++ ": not found")

def builtin? (name : String) : Option Utility :=
  match name with
  | "eval" => some fun arguments => evaluateText run ([' '].intercalate arguments)
  | "." => some (source fresh)
  | "exec" => some (replaceShell fresh)
  | "trap" => some trap
  | "kill" => some (kill fresh)
  | "wait" => some (wait fresh)
  | "jobs" => some listJobs
  | "type" => some (describe false)
  | "hash" => some hash
  | name => plainBuiltins.lookup name

/-- Runs a utility, not a function, by words of which the first is its name. Behind `command`, which
may stand several times, faults of special utilities do not end the shell. -/
def callUtility : Nat → Bool → List Octets → Act Nat
  | 0, _, _ | _, _, [] => return 0
  | uses + 1, isDirect, name :: arguments => do
    let text := Octets.text name
    if text = "command" then
      match takeOptions "pvV".toList [] arguments with
      | .error fault => Act.guarded (reportingFaults name (Act.abort fault))
      | .ok (options, words) =>
        if options.any fun (letter, _) => letter != 'p' then
          let isBrief := options.any (·.1 == 'v')
          reportingFaults name (describe isBrief (words.take 1))
        else callUtility uses false words
    else
      match builtin? run fresh text with
      | none => callProgram fresh name arguments
      | some utility =>
        let act := reportingFaults name (utility arguments)
        if isDirect && specialNames.contains text then act else Act.guarded act

def runNamed (assignments : List (Octets × Word)) (redirects : List Redirect) (name : Octets)
    (arguments : List Octets) : Act Nat := do
  let isSpecial := specialNames.contains (Octets.text name)
  let lasts := [["exec"], ["command", "exec"]].contains ((name :: arguments).map Octets.text)
  let before := (← get).descriptors
  let act : Act Nat := do
    if !(← redirectAll (outputOf fresh) redirects) then
      if isSpecial then throw .failed else return 2
    let assign (isExported : Bool) : Act Unit := do
      let assigned ← assignWords fresh isExported assignments
      trace fresh before (assigned ++ name :: arguments)
    let call : Act Nat := callUtility run fresh (arguments.length + 1) true (name :: arguments)
    let s ← get
    match if isSpecial then none else s.functions.lookup name with
    | some body =>
      keepingVariables (assignments.map (·.1)) do
        assign true
        if s.calls < maxCalls then callFunction run body arguments
        else
          Act.abort ("Maximum function recursion depth (" ++ toString maxCalls ++ ") reached")
    | none =>
      if isSpecial then do
        assign (name == "exec".toList)
        call
      else
        keepingVariables (assignments.map (·.1)) do
          assign true
          call
  if lasts then act else Act.withDescriptors act

/-- The utilities whose arguments are not cut into fields where they assign. -/
def declaringNames : List String := ["export", "readonly", "local", "alias"]

/-- Whether the fields begin with the name of a utility whose arguments may assign. -/
def declares (fields : List Octets) : Bool :=
  match fields.map Octets.text |>.dropWhile (· == "command") with
  | [] => false
  | name :: _ => declaringNames.contains name

/-- The fields of a command whose first fields are known. -/
def commandFields (fields : List Octets) : List Word → Act (List Octets)
  | [] => return fields
  | w :: ws => do
    let next ← match if declares fields then assignment? w else none with
      | some (name, value) => do pure [name ++ '=' :: (← wordText (outputOf fresh) value)]
      | none => wordFields (outputOf fresh) w
    commandFields (fields ++ next) ws

def runSimple (line : Nat) (assignments : List (Octets × Word)) (words : List Word)
    (redirects : List Redirect) : Act Nat := do
  Act.wait commandTime
  modify fun s => { s with line, outputStatus? := none }
  match ← commandFields fresh [] words with
  | [] => do
    let before := (← get).descriptors
    Act.withDescriptors do
      if !(← redirectAll (outputOf fresh) redirects) then return 2
      let assigned ← assignWords fresh false assignments
      if !assigned.isEmpty then trace fresh before assigned
      let s ← get
      return s.outputStatus?.getD 0
  | name :: arguments => runNamed run fresh assignments redirects name arguments

/-! ### Pipes -/

/-- Whether a word can be expanded twice with the same result and no other effect. -/
def isSteady (w : Word) : Bool :=
  w.all fun
    | .plain _ | .quoted _ | .home _ | .quotes | .parameter _ _ .plain _ => true
    | _ => false

/-- Makes and empties the files that commands as a whole write to. The commands of a pipe begin at
one time, so that all but the first have done so before the first one does anything. -/
def openAhead (commands : List Command) : Act Unit := do
  let s ← get
  let redirects := (commands.flatMap outerRedirects).filter fun
    | .mk _ (.write _) target | .mk _ .append target => isSteady target
    | _ => false
  for r in redirects do
    let now ← get
    let (_, opened) := redirect (outputOf fresh) r now
    if !s.has 'C' then set { now with tree := opened.tree }

/-- Runs the stages of a pipe, each with the output of the one before. -/
def runStages : List Command → Act Nat
  | [] => return 0
  | [stage] => do endingStatus (← Act.isolate (inSubshell fresh (run [stage])))
  | stage :: rest => do
    let (ending, text) ← capture fresh (inSubshell fresh (run [stage]))
    discard (endingStatus ending)
    Act.withDescriptors do
      discard (connectChannel 0 (.source text))
      runStages rest

end

/-! ### Commands -/

/-- Takes note of the status of a command, and of the jobs and signals that came with it. Ends the
shell if the command failed where that is asked for. -/
def checkStatus (fresh : List Command → Act Nat) (isChecked : Bool) (status : Nat) : Act Nat := do
  modify fun s => { s with status }
  settle fresh
  deliver fresh
  let s ← get
  if s.has 'e' && !isChecked && status != 0 then throw (.exit status) else return status

def runEach (command : Command → Act Nat) : Nat → List Command → Act Nat
  | status, [] => return status
  | _, c :: rest => do
    let status ← command c
    runEach command status rest

/-- Runs a command in which others are nested up to the given depth. Where the status is looked at,
a failure does not end the shell. -/
def runCommand : Nat → Bool → Command → Act Nat
  | 0, _, _ => throw .timedOut
  | depth + 1, isChecked, c => do
    let fresh (commands : List Command) : Act Nat :=
      runEach (runCommand depth false) 0 commands
    let check (commands : List Command) : Act Nat :=
      runEach (runCommand depth true) 0 commands
    let run (commands : List Command) : Act Nat := if isChecked then check commands
      else fresh commands
    let finish (isChecked : Bool) (status : Nat) : Act Nat := checkStatus fresh isChecked status
    let s ← get
    if s.has 'n' then return 0
    match c with
    | .simple line assignments words redirects => do
      let status ← runSimple run fresh line assignments words redirects
      finish isChecked status
    | .pipeline negated stages =>
      if negated then do
        let status ← match stages with
          | [stage] => check [stage]
          | stages => do
            openAhead fresh (stages.drop 1)
            runStages check fresh stages
        finish true (if status = 0 then 1 else 0)
      else do
        openAhead fresh (stages.drop 1)
        let status ← runStages run fresh stages
        finish isChecked status
    | .sequence first rest => do
      let mut status ← check [first]
      let mut left := rest
      for (joint, next) in rest do
        left := left.drop 1
        let runs := match joint with
          | .always => true
          | .onSuccess => status == 0
          | .onFailure => status != 0
        if runs then
          status ← if left.isEmpty then run [next] else check [next]
      finish true status
    | .background body => do
      startJob fresh (outputOf fresh) body
      finish true 0
    | .group body => run body
    | .subshell body => do
      let status ← endingStatus (← Act.isolate (inSubshell fresh (run body)))
      finish isChecked status
    | .branch condition body otherwise => do
      if (← check condition) = 0 then run body
      else if otherwise.isEmpty then finish true 0
      else run otherwise
    | .loop whileTrue condition body => do
      let status ← insideLoop
        (repeatBody whileTrue (check condition) (run body) (roundBound s) 0)
      finish true status
    | .each name words? body => do
      let values ← match words? with
        | none => pure s.parameters
        | some words => wordsFields (outputOf fresh) words
      let status ← insideLoop (forEach name (run body) 0 values)
      finish true status
    | .select subject cases => do
      let text ← wordText (outputOf fresh) subject
      for (patterns, body) in cases do
        for pattern in patterns do
          if isMatch (← wordPattern (outputOf fresh) pattern) text then
            return ← run body
      finish true 0
    | .define name body => do
      modify fun s => { s with functions := (name, body) :: s.functions.filter (·.1 != name) }
      finish true 0
    | .redirected line body redirects => do
      modify fun s => { s with line }
      Act.withDescriptors do
        if ← redirectAll (outputOf fresh) redirects then run [body] else finish isChecked 2

/-- The depth to which commands may be nested. -/
def maxDepth : Nat := 20000

def runCommands (commands : List Command) : Act Nat :=
  runEach (runCommand maxDepth false) 0 commands

def runExecution (x : Files.Execution) (arguments : List Octets) : Act Nat :=
  let all := x.front.map octets ++ arguments
  if shellNames.contains x.program then runShell runCommands (octets x.name) all
  else
    let start : Starter := fun name arguments => do
      match ← startProgram runCommands maxStarts name arguments with
      | .error e => return .error e
      | .ok act => return .ok do return (← act).status
    match program? start x.program with
    | some utility => reportingWrites x.program (utility all)
    | none => return 127

/-- Runs a step as a program whose output is read to its end, also as far as jobs write it. There is
no ending if the time is up. -/
def runToEnd (act : Act Nat) (s : State) : Option Ending × State :=
  let stop (after : State) : State :=
    (stopJobs runCommands { after with clock := min after.clock after.limit }).2
  let (result, after) := act s
  match endingOf? result with
  | none => (none, stop after)
  | some ending =>
    match awaitOutput runCommands [1, 2] after with
    | (.ok (), after) => (some ending, stop after)
    | (.error _, after) => (none, stop after)

end ZoneGuard.Shell
