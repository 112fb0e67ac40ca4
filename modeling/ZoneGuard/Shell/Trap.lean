import ZoneGuard.Shell.Builtin.Variables
import ZoneGuard.Shell.Reader
import ZoneGuard.Shell.Signal

/-!
# Texts and traps

Scripts that are given as texts, and those among them that a shell runs when it gets a signal or
ends.
-/

namespace ZoneGuard.Shell

section

variable (run : List Command → Act Nat)

/-! ### Texts -/

def runText (text : Octets) : Act Nat := do
  let s ← get
  let script := Script.ofText s.documents text
  set { s with documents := script.documents }
  let status ← run script.commands
  match script.fault? with
  | none => return status
  | some (line, fault) => do
    modify fun s => { s with line }
    Act.abort ("Syntax error: " ++ fault)

def evaluateText (text : Octets) : Act Nat := do
  if (skipSpace text).isEmpty then return 0 else runText run text

/-! ### Traps -/

/-- Runs what is to be done at the end of a shell, once. -/
def atExit (act : Act Nat) : Act Nat := fun s =>
  let finish (status : Nat) (s : State) : Except Stop Nat × State :=
    match s.traps.lookup 0 with
    | none => (.ok status, s)
    | some action =>
      match evaluateText run action { s with traps := s.traps.filter (·.1 != 0), status } with
      | (.error (.exit status), s) => (.ok status, s)
      | (.error e, s) => (.error e, s)
      | (.ok _, s) => (.ok status, s)
  match act s with
  | (.ok status, s) | (.error (.exit status), s) | (.error (.done status), s) => finish status s
  | (.error .failed, s) => finish 2 s
  | (.error (.leave _), s) | (.error (.again _), s) => finish 0 s
  | (.error e, s) => (.error e, s)

def receive (signal : Nat) : Act Unit := do
  let s ← get
  match if isSure signal then none else s.traps.lookup signal with
  | some action => do
    discard (evaluateText run action)
    modify fun after => { after with status := s.status }
  | none =>
    if isHarmless signal then return ()
    else if isHalting signal then throw .timedOut
    else throw (.killed signal)

/-- Receives so many of the signals that have been sent to the shell. -/
def receiveSignals : Nat → Act Unit
  | 0 => return ()
  | count + 1 => do
    let s ← get
    match s.signals.find? (·.1 == s.number) with
    | none => return ()
    | some sent => do
      set { s with signals := s.signals.erase sent }
      receive run sent.2
      receiveSignals count

/-- Receives the signals that have been sent to the shell. -/
def deliver : Act Unit := do
  let s ← get
  receiveSignals run s.signals.length

end

/-! ### The utility -/

/-- Prints the traps in the order of their signals. -/
def printTraps : Act Unit := do
  let s ← get
  for signal in List.range (maxSignal + 1) do
    if let some action := s.traps.lookup signal then
      Act.printLine ("trap -- ".toList ++ singleQuoted action ++ octets (" " ++ signalName signal))

/-- Sets or removes what is to be done on signals, up to the first that there is not. -/
def setTraps (action? : Option Octets) : List Octets → Act Nat
  | [] => return 0
  | name :: names => do
    match signalNumber? name with
    | none => do
      Act.warn ("trap: " ++ Octets.text name ++ ": bad trap")
      return 1
    | some signal => do
      modify fun s =>
        { s with traps := action?.toList.map (signal, ·) ++ s.traps.filter (·.1 != signal) }
      setTraps action? names

/-- The utility `trap`. A single operand, or a first one that is a number, names a signal. -/
def trap (arguments : List Octets) : Act Nat :=
  withLetters "" arguments fun _ operands => do
    match operands with
    | [] => do
      printTraps
      return 0
    | [_] => setTraps none operands
    | action :: names =>
      if action.all Char.isDigit && (signalNumber? action).isSome then setTraps none operands
      else setTraps (if action = ['-'] then none else some action) names

end ZoneGuard.Shell
