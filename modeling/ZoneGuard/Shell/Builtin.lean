import ZoneGuard.Shell.Builtin.Places
import ZoneGuard.Shell.Builtin.Variables
import ZoneGuard.Shell.Program

/-!
# Builtin utilities

The table of the utilities that are part of the shell. Like the shell they only serve the program
that runs.
-/

namespace ZoneGuard.Shell

/-- The utility `alias`, for a shell that has none. -/
def listAliases (arguments : List Octets) : Act Nat :=
  forOperands arguments fun operand => do
    if operand.contains '=' then return 0
    else do
      Act.warn ("alias: " ++ Octets.text operand ++ " not found")
      return 1

/-- The utility `unalias`, for a shell that has no names of this kind. -/
def unalias (arguments : List Octets) : Act Nat :=
  withLetters "a" arguments fun _ operands =>
    forOperands operands fun operand => do
      Act.warn ("unalias: " ++ Octets.text operand ++ " not found")
      return 1

/-- The utility `ulimit`, for a shell without limits. -/
def resourceLimit (arguments : List Octets) : Act Nat :=
  withLetters "HSatfdscmlpnvwr" arguments fun _ operands => do
    if operands.isEmpty then Act.printLine "unlimited".toList
    return 0

def times (_ : List Octets) : Act Nat := do
  Act.printLine "0m0.000000s 0m0.000000s".toList
  Act.printLine "0m0.000000s 0m0.000000s".toList
  return 0

/-- A utility that needs a job in the foreground, of which there is none. -/
def currentJob (_ : List Octets) : Act Nat := Act.abort "No current job"

/-- The builtin utilities that run no scripts and do not look at jobs. -/
def plainBuiltins : List (String × Utility) :=
  [(":", fun _ => pure 0), ("true", fun _ => pure 0), ("false", fun _ => pure 1),
   ("break", breakLoops), ("continue", continueLoops), ("exit", exit), ("return", returnFrom),
   ("export", exportVariables), ("readonly", makeConstants), ("local", makeLocal),
   ("unset", unset), ("shift", shift), ("set", setOptions), ("getopts", getopts), ("read", read),
   ("cd", changeDirectory), ("chdir", changeDirectory), ("pwd", workingDirectory),
   ("umask", fileMask), ("echo", echo), ("printf", printf), ("test", test false),
   ("[", test true), ("alias", listAliases), ("unalias", unalias),
   ("fg", currentJob), ("bg", currentJob), ("ulimit", resourceLimit), ("times", times)]

def scriptingNames : List String :=
  ["eval", ".", "command", "exec", "trap", "kill", "wait", "jobs", "type", "hash"]

def isBuiltin (name : String) : Bool :=
  (plainBuiltins.lookup name).isSome || scriptingNames.contains name

/-- Runs a step for a builtin utility, which reports if it could not write. -/
def reportingFaults (name : Octets) (act : Act Nat) : Act Nat :=
  Act.about name do
    modify fun s => { s with writeFault? := none }
    let status ← act
    let s ← get
    if s.writeFault?.isNone then return status
    else do
      set { s with writeFault? := none }
      Act.complain (Octets.text name ++ ": I/O error")
      return 1

end ZoneGuard.Shell
