import ZoneGuard.Shell.State

/-!
# Options of the shell

How builtin utilities read the letters behind a dash, and the options of the shell itself, which the
utility `set` and the arguments of a shell switch on and off by letter or by name.
-/

namespace ZoneGuard.Shell

/-! ### Letters -/

/-- The options that the letters of one argument give, and the last of them if it still needs a
value. -/
def letterOptions (known valued : Octets) :
    Octets → Except String (List (Char × Octets) × Option Char)
  | [] => .ok ([], none)
  | c :: cs =>
    if valued.contains c then
      if cs.isEmpty then .ok ([], some c) else .ok ([(c, cs)], none)
    else if !known.contains c then .error ("Illegal option -" ++ String.singleton c)
    else do
      let (options, last?) ← letterOptions known valued cs
      return ((c, []) :: options, last?)

def takeOptions (known valued : Octets) :
    List Octets → Except String (List (Char × Octets) × List Octets)
  | ['-', '-'] :: operands => .ok ([], operands)
  | ('-' :: c :: cs) :: rest => do
    let (options, last?) ← letterOptions known valued (c :: cs)
    match last?, rest with
    | none, rest => do
      let (more, operands) ← takeOptions known valued rest
      return (options ++ more, operands)
    | some c, [] => .error ("No arg for -" ++ String.singleton c ++ " option")
    | some c, value :: rest => do
      let (more, operands) ← takeOptions known valued rest
      return (options ++ (c, value) :: more, operands)
  | operands => .ok ([], operands)

/-- Runs a builtin utility on its options, which are letters without values, and its operands. -/
def withLetters (known : String) (arguments : List Octets)
    (act : Octets → List Octets → Act Nat) : Act Nat := do
  match takeOptions known.toList [] arguments with
  | .error fault => Act.abort fault
  | .ok (options, operands) => act (options.map (·.1)) operands

/-! ### Options of the shell -/

/-- The options of the shell by name, each with its letter if it has one. -/
def shellOptions : List (String × Option Char) :=
  [("errexit", some 'e'), ("noglob", some 'f'), ("ignoreeof", some 'I'),
   ("interactive", some 'i'), ("monitor", some 'm'), ("noexec", some 'n'), ("stdin", some 's'),
   ("xtrace", some 'x'), ("verbose", some 'v'), ("vi", some 'V'), ("emacs", some 'E'),
   ("noclobber", some 'C'), ("allexport", some 'a'), ("notify", some 'b'), ("nounset", some 'u'),
   ("privileged", some 'p'), ("nolog", none), ("debug", none)]

/-- Prints which options are on, as a table or as commands that switch them. -/
def printShellOptions (asTable : Bool) : Act Unit := do
  let s ← get
  if asTable then Act.printLine (octets "Current option settings")
  for (name, letter?) in shellOptions do
    let isOn := letter?.any s.has
    let line := if asTable then
        name ++ String.ofList (List.replicate (16 - name.length) ' ')
          ++ (if isOn then "on" else "off")
      else "set " ++ (if isOn then "-o " else "+o ") ++ name
    Act.printLine (octets line)

def switchOption (isOn : Bool) (letter : Char) : Act Unit := do
  if !(shellOptions.any fun (_, known?) => known? == some letter) then
    Act.abort ("Illegal option -" ++ String.singleton letter)
  modify fun s =>
    let others := s.options.filter (· != letter)
    { s with options := if isOn then letter :: others else others }

def switchNamedOption (isOn : Bool) (name : Octets) : Act Unit := do
  match shellOptions.lookup (Octets.text name) with
  | none => Act.abort ("Illegal option -o " ++ Octets.text name)
  | some none => return ()
  | some (some letter) => switchOption isOn letter

/-- What is left of arguments whose options have been carried out. -/
structure OptionRest where
  /-- The operands. -/
  operands : List Octets
  /-- Whether two dashes ended the options and no operands follow. -/
  isCleared : Bool := false
  /-- Whether the letter that announces a script was among the options of a shell. -/
  hasScript : Bool := false

/-- Switches the options that letters stand for. The letter `o` takes a name from the arguments that
follow, and prints the options if there is none. -/
def switchLetters (isStart isOn : Bool) : Octets → OptionRest → Act OptionRest
  | [], r => return r
  | 'o' :: cs, r => do
    match r.operands with
    | [] => do
      printShellOptions isOn
      switchLetters isStart isOn cs r
    | name :: operands => do
      switchNamedOption isOn name
      switchLetters isStart isOn cs { r with operands }
  | c :: cs, r => do
    if isStart && c = 'c' then switchLetters isStart isOn cs { r with hasScript := true }
    else do
      switchOption isOn c
      switchLetters isStart isOn cs r

/-- Carries out the options in front of arguments, those of the utility `set` or of a shell that
starts. Each step passes an argument. -/
def takeShellOptions (isStart : Bool) : Nat → OptionRest → Act OptionRest
  | 0, r => return r
  | steps + 1, r => do
    match r.operands with
    | ['-'] :: operands => do
      if !isStart then
        modify fun s => { s with options := s.options.filter fun c => c != 'x' && c != 'v' }
      return { r with operands }
    | ['-', '-'] :: operands => return { r with operands, isCleared := operands.isEmpty }
    | ('-' :: letters) :: operands => do
      takeShellOptions isStart steps (← switchLetters isStart true letters { r with operands })
    | ('+' :: letters) :: operands => do
      takeShellOptions isStart steps (← switchLetters isStart false letters { r with operands })
    | _ => return r

end ZoneGuard.Shell
