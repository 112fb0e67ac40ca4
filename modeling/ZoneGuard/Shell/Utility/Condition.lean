import ZoneGuard.Shell.State

/-!
# Conditions

The utility `test`, also written with brackets: conditions on texts, integers and files.
-/

namespace ZoneGuard.Shell

inductive ConditionFault where
  | badNumber (text : Octets)
  | operandExpected (text : Octets)
  | operatorExpected (text : Octets)
  | closingExpected

def ConditionFault.message : ConditionFault → String
  | .badNumber text => "Illegal number: " ++ Octets.text text
  | .operandExpected text => Octets.text text ++ ": argument expected"
  | .operatorExpected text =>
    (if text.isEmpty then "" else Octets.text text ++ ": ") ++ "unexpected operator"
  | .closingExpected => "closing paren expected"

/-- The integer that a text holds, perhaps between blanks. -/
def integerOf (text : Octets) : Except ConditionFault Int :=
  let cs := skipSpace text
  let (negative, cs) := match cs with
    | '-' :: rest => (true, rest)
    | '+' :: rest => (false, rest)
    | _ => (false, cs)
  let digits := cs.takeWhile Char.isDigit
  if digits.isEmpty || !(skipSpace (cs.drop digits.length)).isEmpty then .error (.badNumber text)
  else
    let n := Int.ofNat (digitsValue 10 digits)
    let n := if negative then -n else n
    if wrap n = n then .ok n else .error (.badNumber text)

/-- Whether an entry is a regular file with a property. A program counts as such a file. -/
def isFileWith (t : Files.Tree) (test : Files.File → Bool) : Files.Entry → Bool
  | .file number => test (t.file number)
  | .program _ => test { content := [0], mode := 0o755 }
  | .directory | .link _ | .device _ => false

def unaryTruth (s : State) (op operand : Octets) : Except ConditionFault Bool := do
  let found? := (s.tree.find s.current (Octets.text operand)).toOption
  let isFile (test : Files.File → Bool) : Bool := found?.any (isFileWith s.tree test)
  let hasBit (bit : Nat) : Bool := isFile fun f => f.mode &&& bit != 0
  let isDirectory := found? == some .directory
  match String.ofList op with
  | "-n" => return !operand.isEmpty
  | "-z" => return operand.isEmpty
  | "-e" | "-r" | "-w" | "-O" | "-G" => return found?.isSome
  | "-f" => return isFile fun _ => true
  | "-d" => return isDirectory
  | "-x" => return isDirectory || isFile Files.File.isExecutable
  | "-s" => return isDirectory || isFile fun f => !f.content.isEmpty
  | "-c" => return match found? with
    | some (.device _) => true
    | _ => false
  | "-h" | "-L" => return match (s.tree.findNamed s.current (Octets.text operand)).toOption with
    | some (.link _) => true
    | _ => false
  | "-u" => return hasBit 0o4000
  | "-g" => return hasBit 0o2000
  | "-k" => return hasBit 0o1000
  | "-t" => do
    discard (integerOf operand)
    return false
  | _ => return false

inductive WordKind where
  | unary
  | binary
  | not
  | and
  | or
  | opening
  | closing
deriving DecidableEq

def wordKind? (w : Octets) : Option WordKind :=
  match String.ofList w with
  | "!" => some .not
  | "-a" => some .and
  | "-o" => some .or
  | "(" => some .opening
  | ")" => some .closing
  | "=" | "!=" | "<" | ">" | "-eq" | "-ne" | "-lt" | "-le" | "-gt" | "-ge" | "-nt" | "-ot"
  | "-ef" => some .binary
  | "-r" | "-w" | "-x" | "-e" | "-f" | "-d" | "-c" | "-b" | "-p" | "-u" | "-g" | "-k" | "-s" | "-t"
  | "-z" | "-n" | "-h" | "-O" | "-G" | "-L" | "-S" => some .unary
  | _ => none

/-- What the first of the words is in front of the others, if it is no operand. An operator on one
operand needs an operand behind it, which is not there if an operator on two is. -/
def kindAt? : List Octets → Option WordKind
  | [] => none
  | w :: rest =>
    match wordKind? w, rest with
    | some .unary, [] | some .opening, [] => none
    | some .unary, op :: _ :: _ => if wordKind? op = some .binary then none else some .unary
    | kind?, _ => kind?

def binaryTruth (s : State) (op a b : Octets) : Except ConditionFault Bool := do
  let placeOf (path : Octets) : Option (Files.Location × Files.Entry) :=
    (s.tree.locate true s.current (Octets.text path)).toOption
  let compare (f : Int → Int → Bool) : Except ConditionFault Bool := do
    let m ← integerOf a
    let n ← integerOf b
    return f m n
  match String.ofList op with
  | "=" => return a == b
  | "!=" => return a != b
  | "<" => return decide (a < b)
  | ">" => return decide (b < a)
  | "-eq" => compare (· == ·)
  | "-ne" => compare (· != ·)
  | "-lt" => compare (fun m n => decide (m < n))
  | "-le" => compare (fun m n => decide (m ≤ n))
  | "-gt" => compare (fun m n => decide (n < m))
  | "-ge" => compare (fun m n => decide (n ≤ m))
  | "-nt" | "-ot" => return false
  | _ =>
    match placeOf a, placeOf b with
    | some (_, .file m), some (_, .file n) => return m == n
    | some (x, _), some (y, _) => return x == y
    | _, _ => return false

mutual

/-- The truth of conditions joined by `-o`, of which the first begins as stated, and the words from
the last one used. -/
def anyTrue (s : State) :
    Nat → Option WordKind → List Octets → Except ConditionFault (Bool × List Octets)
  | 0, _, _ => .error .closingExpected
  | depth + 1, kind?, words => do
    let (first, words) ← allTrue s depth kind? words
    if kindAt? (words.drop 1) = some .or then
      let (second, words) ← anyTrue s depth (kindAt? (words.drop 2)) (words.drop 2)
      return (first || second, words)
    else return (first, words)

def allTrue (s : State) :
    Nat → Option WordKind → List Octets → Except ConditionFault (Bool × List Octets)
  | 0, _, _ => .error .closingExpected
  | depth + 1, kind?, words => do
    let (first, words) ← oneTrue s depth kind? words
    if kindAt? (words.drop 1) = some .and then
      let (second, words) ← allTrue s depth (kindAt? (words.drop 2)) (words.drop 2)
      return (first && second, words)
    else return (first, words)

def oneTrue (s : State) :
    Nat → Option WordKind → List Octets → Except ConditionFault (Bool × List Octets)
  | 0, _, _ => .error .closingExpected
  | depth + 1, kind?, words =>
    match kind?, words with
    | some .not, _ => do
      let (truth, words) ← oneTrue s depth (kindAt? (words.drop 1))
        (if words.length = 1 then words else words.drop 1)
      return (!truth, words)
    | _, [] => .ok (false, [])
    | some .opening, _ :: words =>
      if kindAt? words = some .closing then .ok (false, words)
      else do
        let (truth, words) ← anyTrue s depth (kindAt? words) words
        if kindAt? (words.drop 1) = some .closing then return (truth, words.drop 1)
        else throw .closingExpected
    | some .unary, op :: operand :: rest => do
      return (← unaryTruth s op operand, operand :: rest)
    | some .unary, [op] => .error (.operandExpected op)
    | _, a :: op :: rest =>
      if kindAt? (op :: rest) = some .binary then
        match rest with
        | [] => .error (.operandExpected op)
        | b :: rest => do
          return (← binaryTruth s op a b, b :: rest)
      else .ok (!a.isEmpty, a :: op :: rest)
    | _, [a] => .ok (!a.isEmpty, [a])

end

/-- The truth of the condition that the words state. With three words an operator in the middle
counts before anything else. -/
def conditionTruth (s : State) (words : List Octets) : Except ConditionFault Bool := do
  let isBinary := words.length == 3 && ((words.drop 1).head?.bind wordKind?) == some .binary
  let isShort := words.length == 3 || words.length == 4
  let isEnclosed := words.head? == some ['('] && words.getLast? == some [')']
  let (kind?, words) :=
    if isBinary then (none, words)
    else if isShort && isEnclosed then
      let inner := (words.drop 1).dropLast
      (kindAt? inner, inner)
    else if isShort && words.head? == some ['!'] then (some .not, words)
    else (kindAt? words, words)
  let (truth, words) ← anyTrue s (4 * words.length + 4) kind? words
  match words with
  | w :: _ :: _ => throw (.operatorExpected w)
  | _ => return truth

/-- The words of a condition in the arguments of `test`, or of its other name, which needs a bracket
at the end. -/
def conditionWords? (isBracket : Bool) (arguments : List Octets) : Option (List Octets) :=
  if !isBracket then some arguments
  else if arguments.getLast? == some [']'] then some arguments.dropLast
  else none

/-- The utility `test` as a part of the shell, perhaps under its other name. -/
def test (isBracket : Bool) (arguments : List Octets) : Act Nat := do
  let refuse (fault : String) : Act Nat := do
    Act.complain fault
    return 2
  match conditionWords? isBracket arguments with
  | none => refuse "missing ]"
  | some words =>
    match conditionTruth (← get) words with
    | .ok truth => return if truth then 0 else 1
    | .error e => refuse e.message

def ConditionFault.report : ConditionFault → String
  | .badNumber text => "invalid integer '" ++ Octets.text text ++ "'"
  | .operandExpected text => "missing argument after '" ++ Octets.text text ++ "'"
  | .operatorExpected text => "extra argument '" ++ Octets.text text ++ "'"
  | .closingExpected => "')' expected"

def testPlainly (isBracket : Bool) (arguments : List Octets) : Act Nat := do
  let refuse (fault : String) : Act Nat := do
    Act.warn ((if isBracket then "[: " else "test: ") ++ fault)
    return 2
  match conditionWords? isBracket arguments with
  | none => refuse "missing ']'"
  | some words =>
    match conditionTruth (← get) words with
    | .ok truth => return if truth then 0 else 1
    | .error e => refuse e.report

end ZoneGuard.Shell
