import ZoneGuard.Shell.Redirection
import ZoneGuard.Shell.Trap

/-!
# Jobs

Commands that run in the background. What a job does is looked up when it starts, which tells how
long it takes; it is done for good as soon as the time at which it ends has come for the commands in
the foreground. Whoever waits for a job, or reads what it may still write, lets that time come.
-/

namespace ZoneGuard.Shell

/-- The pending job that ends first. -/
def State.nextJob? (s : State) : Option Job :=
  (s.jobs.filter Job.isPending).foldl (fun best? j =>
    match best? with
    | some best => if j.finish < best.finish then some j else some best
    | none => some j) none

def State.changeJob (s : State) (number : Nat) (change : Job → Job) : State :=
  { s with jobs := s.jobs.map fun j => if j.number = number then change j else j }

def State.isHeld (s : State) (channel : Nat) : Bool :=
  s.jobs.any fun j => j.isPending && j.channels.contains channel

section

variable (run : List Command → Act Nat)

/-! ### Carrying out -/

/-- What becomes of a job that runs up to a limit: how it ends, if it does, when that is, and the
state then, in which the running shell is as before. -/
def Job.outcome (j : Job) (limit : Nat) (s : State) : Option Ending × Nat × State :=
  let others := s.changeJob j.number fun j => { j with ending? := some (.exited 0) }
  let (result, after) := atExit run (run [j.body])
    { others with toScope := j.scope, clock := j.start, limit, writeFault? := none }
  (endingOf? result, after.clock,
    { after with
      toScope := s.toScope, clock := s.clock, limit := s.limit, writeFault? := s.writeFault? })

def Job.foreseenFinish (j : Job) (s : State) : Nat :=
  match j.outcome run s.limit s with
  | (some _, finish, _) => finish
  | (none, _, _) => s.limit

/-- Carries out a job that has ended by now, or else finds out when it ends. -/
def carryOut (j : Job) : Act Unit := fun s =>
  match j.outcome run s.limit s with
  | (none, _, _) => (.ok (), s.changeJob j.number fun j => { j with finish := s.limit })
  | (some ending, finish, after) =>
    if finish ≤ s.clock then
      (.ok (), after.changeJob j.number fun j => { j with ending? := some ending })
    else (.ok (), s.changeJob j.number fun j => { j with finish })

/-- Ends a job by a signal. What it has done up to now stays. -/
def endJob (j : Job) (signal : Nat) : Act Unit := fun s =>
  let (_, _, after) := j.outcome run s.clock s
  (.ok (), after.changeJob j.number fun j => { j with ending? := some (.killed signal) })

/-- Carries out the jobs that have ended by now, in at most so many rounds. -/
def settleWithin : Nat → Act Unit
  | 0 => return ()
  | rounds + 1 => do
    let s ← get
    match s.nextJob? with
    | none => return ()
    | some j =>
      if j.finish ≤ s.clock then do
        carryOut run j
        settleWithin rounds
      else return ()

/-- How many rounds are taken for the jobs at most. -/
def jobRounds (s : State) : Nat := 2 * s.jobs.length + 64

def settle : Act Unit := do
  let s ← get
  if !s.jobs.isEmpty then settleWithin run (jobRounds s)

/-- Lets time pass until the state is as wanted, no job is left or the shell gets a signal. -/
def awaitWithin (isDone : State → Bool) : Nat → Act Unit
  | 0 => throw .timedOut
  | rounds + 1 => do
    settle run
    let s ← get
    if isDone s || s.signals.any (·.1 == s.number) then return ()
    else do
      for j in s.jobs do
        if j.isPending then
          modify fun s => s.changeJob j.number fun j => { j with finish := j.foreseenFinish run s }
      match (← get).nextJob? with
      | none => return ()
      | some j => do
        if s.clock < j.finish then Act.wait (j.finish - s.clock)
        awaitWithin isDone rounds

/-- Lets time pass until the state is as wanted, no job is left or the shell gets a signal. -/
def await (isDone : State → Bool) : Act Unit := do
  let s ← get
  awaitWithin run isDone (jobRounds s)

/-! ### Starting -/

def outerRedirects : Command → List Redirect
  | .simple _ _ _ redirects | .redirected _ _ redirects => redirects
  | _ => []

/-- Starts a command in the background, without an input. -/
def startJob (output : List Command → Act Octets) (body : Command) : Act Unit := do
  let number ← Act.newProcess
  let input ← Act.openChannel (.device .null)
  let s ← get
  let scope : Scope :=
    { s.toScope with
      number, ancestors := s.number :: s.ancestors
      descriptors := (0, input) :: s.descriptors.filter (·.1 != 0)
      traps := s.traps.filter (·.2.isEmpty) }
  let (_, redirected) := redirectAll output (outerRedirects body) { s with toScope := scope }
  let j : Job :=
    { number, owner := s.number, body, scope, start := s.clock, finish := s.clock
      channels := redirected.descriptors.map (·.2) }
  let finish := j.foreseenFinish run s
  set { s with jobs := s.jobs ++ [{ j with finish }], latestJob? := some number }

/-! ### Reading what is written -/

/-- Runs a step as a process whose output is read to its end, also as far as jobs write it. -/
def capture (act : Act Nat) : Act (Ending × Octets) := do
  let sink ← Act.openChannel (.sink [])
  let ending ← Act.isolate do
    Act.connect 1 sink
    act
  await run fun s => !s.isHeld sink
  let s ← get
  return (ending, ((s.channels[sink]?).map (·.written)).getD [])

/-- The status that stands for the ending of a process. Of some signals that ended it something is
said. -/
def endingStatus (e : Ending) : Act Nat := do
  if let .killed signal := e then
    if let some text := signalText? signal then Act.warn text
  return e.status

/-! ### Utilities -/

def ownJobs (s : State) : List Job := s.jobs.filter (·.owner == s.number)

def jobNamed (text : Octets) : Act Job := do
  let s ← get
  let digits := text.drop 1
  let own := ownJobs s
  let job? := if ["", "%", "+"].contains (String.ofList digits) then own.getLast?
    else if digits.all Char.isDigit && digits != ['0'] then own[digitsValue 10 digits - 1]?
    else none
  match job? with
  | some j => return j
  | none => Act.abort ("No such job: " ++ Octets.text text)

/-- The utility `jobs`, which lists the shell's own jobs that still run. -/
def listJobs (_ : List Octets) : Act Nat := do
  let s ← get
  let own := ownJobs s
  for (j, place) in own.zipIdx 1 do
    if j.isPending then
      let mark := if place = own.length then "+" else if place + 1 = own.length then "-" else " "
      let line := "[" ++ toString place ++ "] " ++ mark ++ " Running"
      Act.printLine (octets (line ++ String.ofList (List.replicate (33 - line.length) ' ')))
  return 0

/-- Waits for the job that a text names by its process number or otherwise. The status is that of
the job, or that of a signal that came first. -/
def waitFor (text : Octets) : Act Nat := do
  let number ← if text.head? == some '%' then do pure (← jobNamed text).number else countOf text
  let s ← get
  if !(ownJobs s).any (·.number == number) then return 127
  else do
    let endingIn (s : State) : Option Ending :=
      (s.jobs.find? (·.number == number)).bind (·.ending?)
    await run fun s => (endingIn s).isSome
    let s ← get
    match endingIn s, s.signals.find? (·.1 == s.number) with
    | some ending, _ => endingStatus ending
    | none, some (_, signal) => return 128 + signal
    | none, none => return 127

def wait (arguments : List Octets) : Act Nat :=
  withLetters "" arguments fun _ operands => do
    if operands.isEmpty then do
      await run fun s => !(ownJobs s).any Job.isPending
      let s ← get
      return match s.signals.find? (·.1 == s.number) with
        | some (_, signal) => 128 + signal
        | none => 0
    else do
      let mut status := 0
      for operand in operands do
        status ← waitFor run operand
      return status

/-- Sends a signal to a process; tells whether there is one. -/
def send (signal number : Nat) : Act Bool := do
  let s ← get
  let number := if number = 0 then s.number else number
  match s.jobs.find? fun j => j.number == number && j.isPending with
  | some j => do
    if !isHarmless signal && !isHalting signal then endJob run j signal
    return true
  | none =>
    if number = s.number || s.ancestors.contains number then do
      if signal != 0 then set { s with signals := s.signals ++ [(number, signal)] }
      return true
    else return false

def sendAll (signal : Nat) (operands : List Octets) : Act Nat :=
  forOperands operands fun operand => do
    let found ← match operand with
      | '%' :: _ => do
        discard (jobNamed operand)
        pure false
      | '-' :: digits => do send run signal (← countOf digits)
      | digits => do send run signal (← countOf digits)
    if found then return 0
    else do
      Act.complain "No such process\n"
      return 1

/-- Prints the names of all signals, or of the one that a number or a status stands for. -/
def listSignals (operands : List Octets) : Act Nat := do
  match operands with
  | [] => do
    Act.printLine ['0']
    for signal in (List.range (maxSignal + 1)).drop 1 do
      Act.printLine (octets (signalName signal))
    return 0
  | text :: _ => do
    let n ← countOf text
    let signal := if 128 < n then n - 128 else n
    if signal = 0 || maxSignal < signal then
      Act.abort ("invalid signal number or exit status: " ++ Octets.text text)
    Act.printLine (octets (signalName signal))
    return 0

def kill (arguments : List Octets) : Act Nat := do
  let usage : Act Nat := Act.abort
    "Usage: kill [-s sigspec | -signum | -sigspec] [pid | job]... or\nkill -l [exitstatus]"
  let sendTo (signal : Nat) (operands : List Octets) : Act Nat :=
    if operands.isEmpty then usage else sendAll run signal operands
  match arguments with
  | ('-' :: text) :: rest =>
    match signalNumber? text with
    | some signal => sendTo signal rest
    | none =>
      match takeOptions ['l'] ['s'] arguments with
      | .error fault => Act.abort fault
      | .ok (options, operands) => do
        let mut signal := 15
        for (letter, name) in options do
          if letter = 's' then
            match signalNumber? name with
            | some n => signal := n
            | none =>
              Act.abort ("invalid signal number or name: " ++ Octets.text name)
        if options.any (·.1 == 'l') then listSignals operands else sendTo signal operands
  | _ => sendTo 15 arguments

/-! ### The end -/

/-- Lets the jobs end that write to the given channels. -/
def awaitOutput (channels : List Nat) : Act Unit := await run fun s => !channels.any s.isHeld

/-- Stops all jobs. What they have done up to now stays. -/
def stopJobs : Act Unit := do
  settle run
  let s ← get
  for j in s.jobs do
    if j.isPending then endJob run j 9

end

end ZoneGuard.Shell
