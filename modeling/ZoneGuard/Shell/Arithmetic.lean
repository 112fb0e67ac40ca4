import ZoneGuard.Shell.Syntax
import ZoneGuard.Numeric.Digit

/-!
# Arithmetic in scripts

Expressions over integers of 64 bits with the usual operators, except those that step a variable.
-/

namespace ZoneGuard.Shell

inductive BinaryOp where
  | or | and | bitOr | bitXor | bitAnd | eq | ne | lt | le | gt | ge | shiftLeft | shiftRight
  | add | sub | mul | div | rem
deriving DecidableEq

inductive Expression where
  | number (n : Int)
  | variable (name : Octets)
  | negate (e : Expression)
  | complement (e : Expression)
  | not (e : Expression)
  | binary (op : BinaryOp) (a b : Expression)
  | choose (condition a b : Expression)
  /-- Assigns the value, or the result of the operator on the variable and the value. -/
  | assign (name : Octets) (op? : Option BinaryOp) (value : Expression)

/-- Why an expression has no value. -/
inductive ArithmeticFault where
  | noOperand
  | tokensLeft
  | divisionByZero
  | badNumber (text : Octets)

def ArithmeticFault.message (expression : String) : ArithmeticFault → String
  | .noOperand => "arithmetic expression: expecting primary: \"" ++ expression ++ "\""
  | .tokensLeft => "arithmetic expression: expecting EOF: \"" ++ expression ++ "\""
  | .divisionByZero => "arithmetic expression: division by zero: \"" ++ expression ++ "\""
  | .badNumber text => "Illegal number: " ++ Octets.text text

/-! ### Reading -/

/-- The operators with their texts and levels. Higher levels bind more tightly, and of two operators
with a common beginning the longer stands first. -/
def binaryOps : List (String × Nat × BinaryOp) :=
  [("||", 1, .or), ("&&", 2, .and), ("==", 6, .eq), ("!=", 6, .ne), ("<<", 8, .shiftLeft),
   (">>", 8, .shiftRight), ("<=", 7, .le), (">=", 7, .ge), ("<", 7, .lt), (">", 7, .gt),
   ("|", 3, .bitOr), ("^", 4, .bitXor), ("&", 5, .bitAnd), ("+", 9, .add), ("-", 9, .sub),
   ("*", 10, .mul), ("/", 10, .div), ("%", 10, .rem)]

def assignOps : List (String × Option BinaryOp) :=
  [("<<=", some .shiftLeft), (">>=", some .shiftRight), ("+=", some .add), ("-=", some .sub),
   ("*=", some .mul), ("/=", some .div), ("%=", some .rem), ("&=", some .bitAnd),
   ("|=", some .bitOr), ("^=", some .bitXor), ("=", none)]

def skipSpace (cs : Octets) : Octets := cs.dropWhile fun c => c == ' ' || c == '\t' || c == '\n'

/-- The number at the beginning, in base eight behind a zero and in base sixteen behind `0x`, or the
largest of 64 bits if it is larger. -/
def numberAt? (cs : Octets) : Option (Int × Octets) :=
  let digitsOf (base : Nat) (cs : Octets) : Option (Int × Octets) :=
    let digits := cs.takeWhile fun c => (digit? base c).isSome
    if digits.isEmpty then none
    else
      (ofDigits? base digits).map fun n =>
        (if n < UInt64.size / 2 then n else UInt64.size / 2 - 1, cs.drop digits.length)
  match cs with
  | '0' :: 'x' :: rest | '0' :: 'X' :: rest => (digitsOf 16 rest).or (some (0, cs.drop 1))
  | '0' :: _ => digitsOf 8 cs
  | _ => digitsOf 10 cs

/-- The assignment operator at the beginning. A doubled equals sign is none. -/
def assignAt? (cs : Octets) : Option (Option BinaryOp × Octets) :=
  if cs.take 2 = ['=', '='] then none
  else
    (assignOps.find? fun (text, _) => text.toList.isPrefixOf cs).map fun (text, op?) =>
      (op?, cs.drop text.length)

/-- The binary operator of at least the given level at the beginning. -/
def binaryAt? (level : Nat) (cs : Octets) : Option (Nat × BinaryOp × Octets) :=
  match binaryOps.find? fun (text, _) => text.toList.isPrefixOf cs with
  | some (text, found, op) => if level ≤ found then some (found, op, cs.drop text.length) else none
  | none => none

mutual

def operand : Nat → Octets → Except ArithmeticFault (Expression × Octets)
  | 0, _ => .error .noOperand
  | depth + 1, cs =>
    let cs := skipSpace cs
    let unary (f : Expression → Expression) (rest : Octets) :=
      match operand depth rest with
      | .error e => .error e
      | .ok (e, rest) => .ok (f e, rest)
    match cs with
    | '-' :: rest => unary .negate rest
    | '+' :: rest => unary id rest
    | '!' :: rest => unary .not rest
    | '~' :: rest => unary .complement rest
    | '(' :: rest =>
      match expression depth 0 rest with
      | .error e => .error e
      | .ok (e, rest) =>
        match skipSpace rest with
        | ')' :: rest => .ok (e, rest)
        | _ => .error .tokensLeft
    | c :: _ =>
      if c.isDigit then
        match numberAt? cs with
        | some (n, rest) => .ok (.number n, rest)
        | none => .error .noOperand
      else
        let name := cs.takeWhile isNameChar
        if name.isEmpty then .error .noOperand
        else
          let rest := cs.drop name.length
          match assignAt? (skipSpace rest) with
          | some (op?, rest) =>
            match expression depth 0 rest with
            | .error e => .error e
            | .ok (e, rest) => .ok (.assign name op? e, rest)
          | none => .ok (.variable name, rest)
    | [] => .error .noOperand

/-- The expression at the beginning whose operators have at least the given level. -/
def expression : Nat → Nat → Octets → Except ArithmeticFault (Expression × Octets)
  | 0, _, _ => .error .noOperand
  | depth + 1, level, cs =>
    match operand depth cs with
    | .error e => .error e
    | .ok (first, rest) => operators depth level first rest

def operators : Nat → Nat → Expression → Octets → Except ArithmeticFault (Expression × Octets)
  | 0, _, _, _ => .error .noOperand
  | depth + 1, level, first, cs =>
    let cs := skipSpace cs
    match binaryAt? level cs with
    | some (found, op, rest) =>
      match expression depth (found + 1) rest with
      | .error e => .error e
      | .ok (second, rest) => operators depth level (.binary op first second) rest
    | none =>
      match cs with
      | '?' :: rest =>
        if level > 0 then .ok (first, cs)
        else
          match expression depth 0 rest with
          | .error e => .error e
          | .ok (a, rest) =>
            match skipSpace rest with
            | ':' :: rest =>
              match expression depth 0 rest with
              | .error e => .error e
              | .ok (b, rest) => .ok (.choose first a b, rest)
            | _ => .error .tokensLeft
      | _ => .ok (first, cs)

end

def Expression.ofText (cs : Octets) : Except ArithmeticFault Expression :=
  match expression (3 * cs.length + 3) 0 cs with
  | .error e => .error e
  | .ok (e, rest) => if (skipSpace rest).isEmpty then .ok e else .error .tokensLeft

/-! ### Values -/

def wrap (n : Int) : Int := n.bmod UInt64.size

def truth (b : Bool) : Int := if b then 1 else 0

def ofBits (n : Nat) : Int := wrap (Int.ofNat n)

def toBits (n : Int) : Nat := (n % UInt64.size).toNat

/-- The value of an operator on two values, except for those that may skip the second. -/
def BinaryOp.apply (op : BinaryOp) (a b : Int) : Except ArithmeticFault Int :=
  match op with
  | .or => .ok (truth (a != 0 || b != 0))
  | .and => .ok (truth (a != 0 && b != 0))
  | .bitOr => .ok (ofBits (toBits a ||| toBits b))
  | .bitXor => .ok (ofBits (toBits a ^^^ toBits b))
  | .bitAnd => .ok (ofBits (toBits a &&& toBits b))
  | .eq => .ok (truth (a == b))
  | .ne => .ok (truth (a != b))
  | .lt => .ok (truth (a < b))
  | .le => .ok (truth (a ≤ b))
  | .gt => .ok (truth (a > b))
  | .ge => .ok (truth (a ≥ b))
  | .shiftLeft => .ok (ofBits (toBits a <<< (toBits b % 64)))
  | .shiftRight => .ok (a >>> (toBits b % 64))
  | .add => .ok (wrap (a + b))
  | .sub => .ok (wrap (a - b))
  | .mul => .ok (wrap (a * b))
  | .div => if b = 0 then .error .divisionByZero else .ok (wrap (a.tdiv b))
  | .rem => if b = 0 then .error .divisionByZero else .ok (wrap (a.tmod b))

abbrev Variables := List (Octets × Octets)

def Variables.set (vs : Variables) (name value : Octets) : Variables :=
  (name, value) :: vs.filter (·.1 != name)

/-- The integer that a variable holds; zero if it is not set. -/
def Variables.integer (vs : Variables) (name : Octets) : Except ArithmeticFault Int :=
  match vs.lookup name with
  | none => .ok 0
  | some text =>
    let cs := skipSpace text
    let (negative, digits) := match cs with
      | '-' :: rest => (true, rest)
      | '+' :: rest => (false, rest)
      | _ => (false, cs)
    if cs.isEmpty then .ok 0
    else
      match numberAt? digits with
      | some (n, rest) =>
        if (skipSpace rest).isEmpty then .ok (wrap (if negative then -n else n))
        else .error (.badNumber text)
      | none => .error (.badNumber text)

def Expression.eval : Expression → Variables → Except ArithmeticFault (Int × Variables)
  | .number n, vs => .ok (wrap n, vs)
  | .variable name, vs => do return (← vs.integer name, vs)
  | .negate e, vs => do
    let (n, vs) ← e.eval vs
    return (wrap (-n), vs)
  | .complement e, vs => do
    let (n, vs) ← e.eval vs
    return (-n - 1, vs)
  | .not e, vs => do
    let (n, vs) ← e.eval vs
    return (truth (n == 0), vs)
  | .binary op a b, vs => do
    let (m, vs) ← a.eval vs
    if op = .or && m != 0 then return (1, vs)
    else if op = .and && m == 0 then return (0, vs)
    else
      let (n, vs) ← b.eval vs
      return (← op.apply m n, vs)
  | .choose condition a b, vs => do
    let (n, vs) ← condition.eval vs
    if n = 0 then b.eval vs else a.eval vs
  | .assign name op? e, vs => do
    let (n, vs) ← e.eval vs
    let value ← match op? with
      | none => .ok n
      | some op => op.apply (← vs.integer name) n
    return (value, vs.set name (toString value).toList)

/-- The value of the expression that a text holds, and the variables after it. -/
def evaluate (cs : Octets) (vs : Variables) : Except ArithmeticFault (Int × Variables) := do
  (← Expression.ofText cs).eval vs

end ZoneGuard.Shell
