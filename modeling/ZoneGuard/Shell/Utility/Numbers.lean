import ZoneGuard.Shell.Utility.Printing
import ZoneGuard.Shell.Utility.Regex

/-!
# Numbers

The utilities `seq` and `expr`: sequences of decimal numbers, and expressions over integers and
texts whose parts are arguments.
-/

namespace ZoneGuard.Shell

/-! ### Sequences -/

/-- A decimal number: an integer divided by a power of ten, and the width it was written with. -/
structure SeqNumber where
  digits : Int
  places : Nat
  width : Nat

def SeqNumber.ofText? (text : Octets) : Option SeqNumber :=
  let text := text.dropWhile (· == ' ')
  let unsigned := match text with
    | '-' :: rest | '+' :: rest => rest
    | rest => rest
  let isNegative := text.head? == some '-'
  match Decimal.numeralAt? unsigned with
  | some ((num, den), []) =>
    let mantissa := unsigned.takeWhile fun c => c.isDigit || c == '.'
    let fraction := (mantissa.dropWhile (· != '.')).drop 1
    let exponent := (Decimal.numeralAt?.exponentAt (unsigned.drop mantissa.length)).1
    let places := ((fraction.length : Int) - exponent).toNat
    let n := num * Nat.pow 10 places / den
    let width := (if isNegative then 1 else 0) + mantissa.length
    some { digits := if isNegative then -n else n, places, width }
  | _ => none

/-- The number as an integer when so many digits stand behind the point. -/
def SeqNumber.scaled (n : SeqNumber) (places : Nat) : Int :=
  n.digits * Nat.pow 10 (places - n.places)

/-- The numbers from one on by steps, as many as stay on this side of the last. -/
def seqValues (first step last : Int) : List Int :=
  let count := if 0 < step then (last - first) / step + 1 else (first - last) / (-step) + 1
  (List.range count.toNat).map fun (i : Nat) => first + i * step

def seqText (width places : Nat) (n : Int) : Octets :=
  let sign : Octets := if n < 0 then ['-'] else []
  let text := Decimal.withPoint places n.natAbs
  sign ++ List.replicate (width - sign.length - text.length) '0' ++ text

def seqWidth (places : Nat) (first last : SeqNumber) : Nat :=
  let widthOf (n : SeqNumber) : Nat :=
    n.width + places - n.places + (if n.places = 0 && places != 0 then 1 else 0)
      - (if n.places != 0 && places = 0 then 1 else 0)
  max (widthOf first) (widthOf last)

/-- A format of numbers: what stands before and behind its directive. -/
structure SeqFormat where
  before : Octets
  shape : Directive
  letter : Char
  behind : Octets

def SeqFormat.ofText (text : Octets) : Except String SeqFormat :=
  let (before, rest) := plainPart text.length text
  match rest with
  | [] => .error ("format " ++ quotedPath text ++ " has no % directive")
  | _ :: rest =>
    let (d, after, _) := directive rest { arguments := [] }
    match d.conversion? with
    | none => .error ("format " ++ quotedPath text ++ " ends in %")
    | some letter =>
      if !"efgEFG".toList.contains letter then
        .error ("format " ++ quotedPath text ++ " has unknown %" ++ letter.toString ++ " directive")
      else
        let (behind, more) := plainPart after.length after
        if more.isEmpty then .ok { before, shape := d, letter, behind }
        else .error ("format " ++ quotedPath text ++ " has too many % directives")
where
  /-- The text up to a directive, in which two percent signs stand for one. Each step passes a
  character. -/
  plainPart : Nat → Octets → Octets × Octets
    | 0, cs => ([], cs)
    | _, [] => ([], [])
    | _ + 1, ['%'] => ([], ['%'])
    | steps + 1, '%' :: c :: rest =>
      if c = '%' then
        let (text, rest) := plainPart steps rest
        ('%' :: text, rest)
      else ([], '%' :: c :: rest)
    | steps + 1, c :: rest =>
      let (text, rest) := plainPart steps rest
      (c :: text, rest)

def SeqFormat.apply (f : SeqFormat) (places : Nat) (n : Int) : Octets :=
  let x := (Binary64.ofQuotient? n.natAbs (Nat.pow 10 places)).getD Binary64.zero
  f.before ++ f.shape.realText f.letter (.finite { x with negative := n < 0 }) ++ f.behind

def seq (arguments : List Octets) : Act Nat :=
  let table : OptionTable :=
    { utility := "seq", letters := "w", valued := "fs", permutes := false
      names := [("equal-width", 'w'), ("format", 'f'), ("separator", 's')] }
  let isNumber (a : Octets) : Bool := match a with
    | '-' :: c :: _ => c.isDigit || c == '.'
    | _ => false
  let options := arguments.takeWhile fun a => !isNumber a
  let arguments := if options.length < arguments.length && !options.contains ['-', '-']
    then options ++ ['-', '-'] :: arguments.drop options.length else arguments
  table.run arguments fun a => do
    let separator := (a.value? 's').getD ['\n']
    match a.operands.erase ['-', '-'] with
    | [] => reportUsage "seq" "missing operand"
    | _ :: _ :: _ :: extra :: _ => reportUsage "seq" ("extra operand " ++ quotedPath extra)
    | operands =>
      match operands.find? fun text => (SeqNumber.ofText? text).isNone with
      | some text =>
        reportUsage "seq" ("invalid floating point argument: " ++ quotedPath text)
      | none =>
        let one : SeqNumber := { digits := 1, places := 0, width := 1 }
        let (first, step, last) := match operands.filterMap SeqNumber.ofText? with
          | [last] => (one, one, last)
          | [first, last] => (first, one, last)
          | first :: step :: last :: _ => (first, step, last)
          | [] => (one, one, one)
        let places := max first.places step.places
        let scale := max places last.places
        let format? := (a.value? 'f').map SeqFormat.ofText
        match step.digits, format? with
        | 0, _ =>
          let shown := quotedPath (operands.getD 1 [])
          reportUsage "seq" ("invalid Zero increment value: " ++ shown)
        | _, some (.error fault) => do
          Act.warn ("seq: " ++ fault)
          return 1
        | _, _ =>
          let values := seqValues (first.scaled scale) (step.scaled scale) (last.scaled scale)
          let width := if a.has 'w' then seqWidth places first last else 0
          let shown (n : Int) : Octets := match format? with
            | some (.ok f) => f.apply scale n
            | _ => seqText width places (Int.tdiv n (Nat.pow 10 (scale - places) : Nat))
          if !values.isEmpty then
            Act.print (separator.intercalate (values.map shown) ++ ['\n'])
          return 0

/-! ### Expressions -/

/-- A reader of arguments that gives a value, or says what is wrong. -/
abbrev ExprRead := Except String (Octets × List Octets)

def exprInteger? (v : Octets) : Option Int :=
  let digits := if v.head? == some '-' then v.drop 1 else v
  if digits.isEmpty || !digits.all Char.isDigit then none
  else
    let n : Int := digitsValue 10 digits
    some (if v.head? == some '-' then -n else n)

/-- Whether a value counts as missing: it is empty or zero. -/
def isNullValue (v : Octets) : Bool :=
  let digits := if v.head? == some '-' then v.drop 1 else v
  v.isEmpty || (!digits.isEmpty && digits.all (· == '0'))

def truthValue (b : Bool) : Octets := if b then ['1'] else ['0']

def comparedValue (op : String) (a b : Octets) : Octets :=
  let order := match exprInteger? a, exprInteger? b with
    | some m, some n => compare m n
    | _, _ => if a == b then .eq else if a.isAtMost b then .lt else .gt
  truthValue (match op with
    | "<" => order == .lt
    | "<=" => order != .gt
    | ">" => order == .gt
    | ">=" => order != .lt
    | "!=" => order != .eq
    | _ => order == .eq)

def calculatedValue (op : String) (a b : Octets) : Except String Octets :=
  match exprInteger? a, exprInteger? b with
  | some m, some n =>
    match op with
    | "+" => .ok (toString (m + n)).toList
    | "-" => .ok (toString (m - n)).toList
    | "*" => .ok (toString (m * n)).toList
    | "/" => if n = 0 then .error "division by zero" else .ok (toString (Int.tdiv m n)).toList
    | _ => if n = 0 then .error "division by zero" else .ok (toString (Int.tmod m n)).toList
  | _, _ => .error "non-integer argument"

/-- What a text matches of an expression at its beginning: the first group, or how much. -/
def matchedValue (text pattern : Octets) : Except String Octets :=
  match Regex.fault? false pattern with
  | some e => .error e.message
  | none =>
    let r := Regex.ofText false pattern
    let m? := r.matchAt? false { rest := text }
    let isGrouped := 0 < r.groupCount
    match m? with
    | none => .ok (if isGrouped then [] else ['0'])
    | some m => .ok (if isGrouped then (m.groups.lookup 1).getD []
        else (toString m.found.length).toList)

/-- The operators of each level, of which the first binds least. -/
def exprOperators : List (List String) :=
  [["|"], ["&"], ["=", "==", "!=", "<", "<=", ">", ">="], ["+", "-"], ["*", "/", "%"], [":"]]

def operatedValue (op : String) (a b : Octets) : Except String Octets :=
  match op with
  | "|" => .ok (if !isNullValue a then a else if isNullValue b then ['0'] else b)
  | "&" => .ok (if isNullValue a || isNullValue b then ['0'] else a)
  | ":" => matchedValue a b
  | "+" | "-" | "*" | "/" | "%" => calculatedValue op a b
  | _ => .ok (comparedValue op a b)

def exprArgument (before : String) : List Octets → ExprRead
  | [] => .error ("syntax error: missing argument after '" ++ before ++ "'")
  | a :: rest => .ok (a, rest)

mutual

/-- The value at the beginning of arguments, with the operators of the given levels. -/
def exprValue : Nat → String → List (List String) → List Octets → ExprRead
  | 0, before, _, _ => .error ("syntax error: missing argument after '" ++ before ++ "'")
  | steps + 1, before, [], arguments => exprPrimary steps before arguments
  | steps + 1, before, level :: levels, arguments => do
    let (value, rest) ← exprValue steps before levels arguments
    exprRest steps level levels value rest

/-- The value of a value and the operators of a level behind it. -/
def exprRest : Nat → List String → List (List String) → Octets → List Octets → ExprRead
  | 0, _, _, value, rest => .ok (value, rest)
  | _ + 1, _, _, value, [] => .ok (value, [])
  | steps + 1, level, levels, value, a :: rest =>
    let op := Octets.text a
    if !level.contains op then .ok (value, a :: rest)
    else do
      let isSkipped := (op == "|" && !isNullValue value) || (op == "&" && isNullValue value)
      let (other, rest) ← match exprValue steps op levels rest with
        | .ok found => pure found
        | .error e =>
          if isSkipped && !("syntax".toList.isPrefixOf e.toList) then pure (['1'], rest.drop 1)
          else throw e
      let value ← if isSkipped then pure (if op == "|" then value else ['0'])
        else operatedValue op value other
      exprRest steps level levels value rest

def exprPrimary : Nat → String → List Octets → ExprRead
  | 0, before, _ => .error ("syntax error: missing argument after '" ++ before ++ "'")
  | steps + 1, before, arguments => do
    let (first, rest) ← exprArgument before arguments
    match Octets.text first with
    | "(" => do
      let (value, rest) ← exprValue steps "(" exprOperators rest
      match rest with
      | [')'] :: rest => return (value, rest)
      | other :: _ =>
        throw ("syntax error: expecting ')' instead of " ++ quotedPath other)
      | [] =>
        let last := arguments.getLast?.getD []
        throw ("syntax error: expecting ')' after " ++ quotedPath last)
    | ")" => throw "syntax error: unexpected ')'"
    | "+" => exprArgument "+" rest
    | "length" => do
      let (text, rest) ← exprPrimary steps "length" rest
      return ((toString text.length).toList, rest)
    | "match" => do
      let (text, rest) ← exprPrimary steps "match" rest
      let (pattern, rest) ← exprPrimary steps (Octets.text text) rest
      return (← matchedValue text pattern, rest)
    | "index" => do
      let (text, rest) ← exprPrimary steps "index" rest
      let (chars, rest) ← exprPrimary steps (Octets.text text) rest
      let place := (text.takeWhile fun c => !chars.contains c).length
      return ((toString (if place = text.length then 0 else place + 1)).toList, rest)
    | "substr" => do
      let (text, rest) ← exprPrimary steps "substr" rest
      let (start, rest) ← exprPrimary steps (Octets.text text) rest
      let (count, rest) ← exprPrimary steps (Octets.text start) rest
      let cut := match exprInteger? start, exprInteger? count with
        | some i, some n =>
          if i < 1 || n < 1 then [] else (text.drop (i.toNat - 1)).take n.toNat
        | _, _ => []
      return (cut, rest)
    | _ => return (first, rest)

end

def expr (arguments : List Octets) : Act Nat := do
  let words := if arguments.head? == some ['-', '-'] then arguments.drop 1 else arguments
  if words.isEmpty then reportUsage "expr" "missing operand" 2
  else
    match exprValue (8 * words.length + 8) "expr" exprOperators words with
    | .error fault => refuse fault
    | .ok (_, extra :: _) =>
      refuse ("syntax error: unexpected argument " ++ quotedPath extra)
    | .ok (value, []) => do
      Act.printLine value
      return if isNullValue value then 1 else 0
where
  /-- Reports a fault. -/
  refuse (fault : String) : Act Nat := do
    Act.warn ("expr: " ++ fault)
    return 2

end ZoneGuard.Shell
