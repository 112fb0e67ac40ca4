import ZoneGuard.Shell.State

/-!
# Options and operands

How utilities read their arguments: letters behind a dash, long names behind two, and operands
between and behind them; and how they report what is wrong.
-/

namespace ZoneGuard.Shell

open Files (OsError)

/-! ### Reports -/

def quotedPath (path : Octets) : String := "'" ++ Octets.text path ++ "'"

/-- The path, in quotes only if it is empty or holds a character with a meaning in scripts. -/
def shownPath (path : Octets) : String :=
  let isPlain (c : Char) : Bool := c.isAlphanum || "%+,-./:=@_".toList.contains c || 0x7F < c.toNat
  if path.isEmpty || !path.all isPlain then quotedPath path else Octets.text path

def reportPath (utility action : String) (path : Octets) (e : OsError) : Act Unit :=
  Act.warn (utility ++ ": " ++ action ++ " " ++ quotedPath path ++ ": " ++ e.reason)

/-- Reports as most utilities do: the utility, the path and the reason. -/
def reportPlain (utility : String) (path : Octets) (e : OsError) : Act Unit :=
  Act.warn (utility ++ ": " ++ shownPath path ++ ": " ++ e.reason)

/-- Says where the use of a utility is explained. -/
def reportHelp (utility : String) : Act Unit :=
  Act.warn ("Try '" ++ utility ++ " --help' for more information.")

def reportUsage (utility text : String) (status : Nat := 1) : Act Nat := do
  Act.warn (utility ++ ": " ++ text)
  reportHelp utility
  return status

/-- Does something with each operand; the status is the greatest of all. -/
def forOperands (operands : List Octets) (act : Octets → Act Nat) : Act Nat := do
  let mut status := 0
  for operand in operands do
    status := max status (← act operand)
  return status

/-! ### Arguments -/

structure OptionTable where
  utility : String
  /-- The letters, and those that take a value. -/
  letters : String := ""
  valued : String := ""
  /-- Long names and the letters that they stand for. -/
  names : List (String × Char) := []
  /-- The status if an option is not known. -/
  status : Nat := 1
  /-- How the utility is used, if faults of arguments say that. -/
  usage? : Option String := none
  /-- Whether options may stand behind operands. -/
  permutes : Bool := true

/-- The arguments of a utility: options with their values, and operands. -/
structure Arguments where
  options : List (Char × Octets) := []
  operands : List Octets := []

namespace Arguments

def has (a : Arguments) (letter : Char) : Bool := a.options.any (·.1 == letter)

def hasAny (a : Arguments) (letters : String) : Bool :=
  a.options.any fun (letter, _) => letters.toList.contains letter

/-- The value of an option, which is the last one given. -/
def value? (a : Arguments) (letter : Char) : Option Octets :=
  (a.options.filter (·.1 == letter)).getLast?.map (·.2)

def valuesOf (a : Arguments) (letter : Char) : List Octets :=
  a.options.filterMap fun (other, value) => if other == letter then some value else none

end Arguments

namespace OptionTable

/-- The letter that a long name stands for, which may be cut where it is still clear. -/
def letter? (t : OptionTable) (name : Octets) : Option Char :=
  match t.names.find? (·.1.toList == name) with
  | some (_, letter) => some letter
  | none =>
    match t.names.filter fun (long, _) => name.isPrefixOf long.toList with
    | [(_, letter)] => some letter
    | _ => none

/-- Reads arguments, or says what is wrong with them. Each step passes a letter or an argument. -/
def read (t : OptionTable) (arguments : List Octets) : Except String Arguments :=
  go (arguments.flatten.length + arguments.length + 1) arguments
where
  /-- Reads the rest of the arguments. -/
  go : Nat → List Octets → Except String Arguments
    | 0, operands => .ok { operands }
    | steps + 1, arguments =>
      let option (letter : Char) (value : Octets) (rest : List Octets) :
          Except String Arguments := do
        let a ← go steps rest
        return { a with options := (letter, value) :: a.options }
      match arguments with
      | [] => .ok {}
      | ['-', '-'] :: operands => .ok { operands }
      | ('-' :: '-' :: text) :: rest =>
        let name := Text.beforeFirst '=' text
        match t.letter? name with
        | none => .error ("unrecognized option " ++ quotedPath ('-' :: '-' :: text))
        | some letter =>
          if !t.valued.toList.contains letter then option letter [] rest
          else if name.length < text.length then option letter (text.drop (name.length + 1)) rest
          else
            match rest with
            | value :: rest => option letter value rest
            | [] => .error ("option " ++ quotedPath ('-' :: '-' :: name) ++ " requires an argument")
      | ('-' :: c :: cs) :: rest =>
        if t.valued.toList.contains c then
          match cs, rest with
          | [], value :: rest => option c value rest
          | [], [] =>
            .error ("option requires an argument -- '" ++ String.singleton c ++ "'")
          | value, rest => option c value rest
        else if !t.letters.toList.contains c then
          .error ("invalid option -- '" ++ String.singleton c ++ "'")
        else option c [] (if cs.isEmpty then rest else ('-' :: cs) :: rest)
      | operand :: rest =>
        if !t.permutes then .ok { operands := operand :: rest }
        else do
          let a ← go steps rest
          return { a with operands := operand :: a.operands }

def run (t : OptionTable) (arguments : List Octets) (act : Arguments → Act Nat) : Act Nat := do
  match t.read arguments with
  | .ok a => act a
  | .error fault => do
    Act.warn (t.utility ++ ": " ++ fault)
    if let some usage := t.usage? then Act.warn usage
    reportHelp t.utility
    return t.status

end OptionTable

end ZoneGuard.Shell
