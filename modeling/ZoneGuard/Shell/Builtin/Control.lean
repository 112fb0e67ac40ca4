import ZoneGuard.Shell.Builtin.Options

/-!
# Control

The builtin utilities that leave loops, functions and shells.
-/

namespace ZoneGuard.Shell

/-- The greatest number that a builtin utility takes. -/
def maxCount : Nat := 2147483647

def countOf (text : Octets) : Act Nat := do
  let n := digitsValue 10 text
  if text.isEmpty || !text.all Char.isDigit || maxCount < n then
    Act.abort ("Illegal number: " ++ Octets.text text)
  else return n

/-- The number that the first argument holds, or the given one if there is none. -/
def countArgument (default : Nat) (arguments : List Octets) : Act Nat :=
  match arguments with
  | [] => return default
  | text :: _ => countOf text

def exit (arguments : List Octets) : Act Nat := do
  let s ← get
  throw (.exit ((← countArgument s.status arguments) % 256))

def returnFrom (arguments : List Octets) : Act Nat := do
  let s ← get
  throw (.done ((← countArgument s.status arguments) % 256))

/-- Stops as many open loops as an argument says, one by default. -/
def stopLoops (stop : Nat → Stop) (arguments : List Octets) : Act Nat := do
  let n ← countArgument 1 arguments
  let s ← get
  if n = 0 then Act.abort "Illegal number: 0"
  else if s.loops = 0 then return 0
  else throw (stop (min n s.loops))

def breakLoops : List Octets → Act Nat := stopLoops .leave

def continueLoops : List Octets → Act Nat := stopLoops .again

def shift (arguments : List Octets) : Act Nat := do
  let n ← countArgument 1 arguments
  let s ← get
  if s.parameters.length < n then Act.abort "can't shift that many"
  set { s with parameters := s.parameters.drop n, nextOption := 1, lettersRead := 0 }
  return 0

end ZoneGuard.Shell
