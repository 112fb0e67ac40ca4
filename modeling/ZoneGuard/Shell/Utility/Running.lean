import ZoneGuard.Numeric.Rounded
import ZoneGuard.Shell.Pattern
import ZoneGuard.Shell.Utility.Listing

/-!
# Utilities that run others

The utilities that run a program with more arguments, in another environment or for a limited time,
and the search through directories that may run a program on what it finds. How a program is started
is passed in: from its name and its arguments come the step that runs it, or the reason why there is
none.
-/

namespace ZoneGuard.Shell

open Files (OsError Entry)

abbrev Starter := Octets → List Octets → Act (Except OsError (Act Nat))

/-- The status of a utility that could not start a program. -/
def unstartedStatus (e : OsError) : Nat := if e = .notFound then 127 else 126

section

variable (start : Starter)

/-- Runs a program for a utility, which reports if it cannot be started. -/
def startFor (utility : String) (words : List Octets) : Act Nat := do
  match words with
  | [] => return 0
  | name :: arguments =>
    match ← start name arguments with
    | .ok act => act
    | .error e => do
      Act.warn (utility ++ quotedPath name ++ ": " ++ e.reason)
      return unstartedStatus e

/-! ### Environments -/

def fieldAssignment? (field : Octets) : Option (Octets × Octets) :=
  let name := Text.beforeFirst '=' field
  if name.length = field.length then none else some (name, field.drop (name.length + 1))

def Scope.withExported (s : Scope) (name value : Octets) : Scope :=
  { s with bindings := s.bindings.set name value, exported := name :: s.exported }

def Scope.without (s : Scope) (name : Octets) : Scope :=
  { s with bindings := s.bindings.filter (·.1 != name), exported := s.exported.filter (· != name) }

def Scope.environment (s : Scope) : Variables :=
  s.bindings.filter fun (name, _) => s.exported.contains name

def env (arguments : List Octets) : Act Nat :=
  let table : OptionTable :=
    { utility := "env", letters := "i0v", valued := "uCS", status := 125, permutes := false
      names := [("ignore-environment", 'i'), ("unset", 'u'), ("null", '0'), ("chdir", 'C')] }
  table.run arguments fun a => do
    let operands := if a.operands.head? == some ['-'] then a.operands.drop 1 else a.operands
    let assigned := (operands.takeWhile fun w => (fieldAssignment? w).isSome)
    let words := operands.drop assigned.length
    let isBare := a.has 'i' || a.operands.head? == some ['-']
    let change (s : Scope) : Scope :=
      let s := if isBare then { s with bindings := s.bindings, exported := [] } else s
      let s := (a.valuesOf 'u').foldl Scope.without s
      (assigned.filterMap fieldAssignment?).foldl
        (fun s (name, value) => s.withExported name value) s
    Act.inScope change do
      if words.isEmpty then do
        let s ← get
        for (name, value) in s.environment do
          Act.printLine (name ++ '=' :: value)
        return 0
      else startFor start "env: " words

def printenv (arguments : List Octets) : Act Nat := do
  let s ← get
  match arguments with
  | [] => do
    for (name, value) in s.environment do
      Act.printLine (name ++ '=' :: value)
    return 0
  | names =>
    forOperands names fun name => do
      match s.environment.lookup name with
      | some value => do
        Act.printLine value
        return 0
      | none => return 1

/-! ### Time -/

def endlessTime : Nat := 1000000000000000000

/-- The microseconds that a text like `0.5` or `2m` stands for. -/
def duration? (text : Octets) : Option Nat :=
  let isEndless := ["inf", "infinity"].contains (String.ofList (text.map Char.toLower))
  if isEndless then some endlessTime
  else
    let text := if text.head? == some '+' then text.drop 1 else text
    match Decimal.numeralAt? text with
    | none => none
    | some ((num, den), unit) =>
      let seconds? : Option Nat := match unit with
        | [] | ['s'] => some 1
        | ['m'] => some 60
        | ['h'] => some 3600
        | ['d'] => some 86400
        | _ => none
      seconds?.map fun seconds => num * seconds * 1000000 / den

def sleep (arguments : List Octets) : Act Nat :=
  let table : OptionTable := { utility := "sleep" }
  table.run arguments fun a => do
    if a.operands.isEmpty then reportUsage "sleep" "missing operand"
    else
      match a.operands.filter fun text => (duration? text).isNone with
      | [] => do
        Act.wait ((a.operands.filterMap duration?).foldl (· + ·) 0)
        return 0
      | wrong => do
        for text in wrong do
          Act.warn ("sleep: invalid time interval " ++ quotedPath text)
        reportHelp "sleep"
        return 1

/-- Runs a step for at most the given time, with a status for one that takes longer. -/
def Act.within (microseconds late : Nat) (act : Act Nat) : Act Nat := fun s =>
  let limit := min s.limit (s.clock + microseconds)
  match act { s with limit } with
  | (.error .timedOut, after) =>
    if limit < s.limit then (.ok late, { after with limit := s.limit, clock := limit })
    else (.error .timedOut, { after with limit := s.limit })
  | (result, after) => (result, { after with limit := s.limit })

def timeout (arguments : List Octets) : Act Nat :=
  let table : OptionTable :=
    { utility := "timeout", letters := "v", valued := "sk", status := 125, permutes := false
      names := [("signal", 's'), ("kill-after", 'k'), ("verbose", 'v')] }
  table.run arguments fun a => do
    let isKill := ["KILL", "SIGKILL", "9"].any fun n => some n.toList == a.value? 's'
    match a.operands with
    | [] | [_] => reportUsage "timeout" "missing operand" 125
    | text :: words =>
      match duration? text with
      | none => reportUsage "timeout" ("invalid time interval " ++ quotedPath text) 125
      | some 0 => startFor start "timeout: failed to run command " words
      | some microseconds =>
        Act.within microseconds (if isKill then 137 else 124)
          (startFor start "timeout: failed to run command " words)

/-- A utility that runs a program in a way that makes no difference here, after its own options. -/
def plainly (utility valued : String) (arguments : List Octets) : Act Nat :=
  let table : OptionTable :=
    { utility, letters := "cfw", valued, status := 125, permutes := false }
  table.run arguments fun a => do
    if a.operands.isEmpty then reportUsage utility "missing operand" 125
    else startFor start (utility ++ ": failed to run command ") a.operands

/-! ### Arguments from the input -/

/-- The items of a text between blanks. Quotes and backslashes protect blanks; a quote that is not
closed is a fault. Each step passes a character. -/
def inputItems (isBlank : Char → Bool) :
    Nat → Option Octets → Octets → Except Char (List Octets)
  | 0, item?, _ | _, item?, [] => .ok (item?.toList.map List.reverse)
  | steps + 1, item?, c :: cs =>
    if c = '\'' || c = '"' then
      let text := cs.takeWhile fun d => d != c && d != '\n'
      if (cs.drop text.length).head? != some c then .error c
      else
        inputItems isBlank steps (some (text.reverse ++ item?.getD []))
          (cs.drop (text.length + 1))
    else if c = '\\' then
      match cs with
      | d :: rest => inputItems isBlank steps (some (d :: item?.getD [])) rest
      | [] => inputItems isBlank steps item? []
    else if isBlank c then do
      let items ← inputItems isBlank steps none cs
      return (item?.toList.map List.reverse) ++ items
    else inputItems isBlank steps (some (c :: item?.getD [])) cs

/-- The list in parts of so many items, the last of which may have fewer. Each step makes a part. -/
def chunks {α : Type} (size : Nat) : Nat → List α → List (List α)
  | 0, _ | _, [] => []
  | steps + 1, items => items.take size :: chunks size steps (items.drop size)

def xargsItems (a : Arguments) (text : Octets) : Except Char (List Octets) :=
  let separated (c : Char) : List Octets :=
    let parts := Text.splitAtEach c text
    if parts.getLast? == some [] then parts.dropLast else parts
  if a.has '0' then .ok (separated '\x00')
  else
    match a.value? 'd' with
    | some ['\\', 'n'] => .ok (separated '\n')
    | some ['\\', 't'] => .ok (separated '\t')
    | some ['\\', '0'] => .ok (separated '\x00')
    | some (c :: _) => .ok (separated c)
    | _ =>
      if a.has 'I' then
        (Text.splitAtEach '\n' text).foldlM (fun items line => do
          let line := skipSpace line
          return items ++ (← inputItems (fun _ => false) line.length none line)) []
      else inputItems (" \t\n".toList.contains ·) text.length none text

def filled (mark value : Octets) (text : Octets) : Octets :=
  if mark.isEmpty then text else Text.replaceAll mark value text

def xargsCommands (a : Arguments) (items : List Octets) : List (List Octets) :=
  let words := if a.operands.isEmpty then ["echo".toList] else a.operands
  match a.value? 'I' with
  | some mark => items.map fun item => words.map (filled mark item)
  | none =>
    let size := match a.value? 'n', a.value? 'L' with
      | some n, _ | none, some n => max 1 (digitsValue 10 n)
      | none, none => max 1 items.length
    if items.isEmpty then (if a.has 'r' then [] else [words])
    else (chunks size items.length items).map (words ++ ·)

def xargs (arguments : List Octets) : Act Nat :=
  let table : OptionTable :=
    { utility := "xargs", letters := "0rtxpo", valued := "nILdPsaE", permutes := false
      names := [("null", '0'), ("no-run-if-empty", 'r'), ("max-args", 'n'), ("verbose", 't'),
        ("replace", 'I'), ("delimiter", 'd'), ("max-procs", 'P'), ("max-lines", 'L')] }
  table.run arguments fun a => do
    let text ← Act.readAll 0
    match xargsItems a text with
    | .error c => do
      let kind := if c = '"' then "double" else "single"
      Act.warn ("xargs: unmatched " ++ kind
        ++ " quote; by default quotes are special to xargs unless you use the -0 option")
      return 1
    | .ok items => do
      let mut status := 0
      for command in xargsCommands a items do
        if a.has 't' then Act.warn (Octets.text ([' '].intercalate command))
        match command with
        | [] => pure ()
        | name :: arguments =>
          match ← start name arguments with
          | .error e =>
            Act.warn ("xargs: " ++ Octets.text name ++ ": " ++ e.reason)
            return unstartedStatus e
          | .ok act =>
            let ended ← act
            if ended = 255 then
              Act.warn ("xargs: " ++ Octets.text name ++ ": exited with status 255; aborting")
              return 124
            if ended != 0 then status := 123
      return status

end

end ZoneGuard.Shell
