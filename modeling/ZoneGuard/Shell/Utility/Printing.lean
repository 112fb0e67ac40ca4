import ZoneGuard.Numeric.Rounded
import ZoneGuard.Shell.Utility.Options

/-!
# Printing

The utilities `echo` and `printf` with their escapes and directives. As a part of the shell and as
programs of their own they differ in the escapes that they know and in what they say of faults.
-/

namespace ZoneGuard.Shell

def isOctal (c : Char) : Bool := '0' ≤ c && c ≤ '7'

def octalByte (digits : Octets) : Char :=
  Char.ofNat (digitsValue 8 digits % 256)

/-- The character that a letter behind a backslash stands for. -/
def letterEscape? (c : Char) : Option Char :=
  match c with
  | 'a' => some '\x07'
  | 'b' => some '\x08'
  | 'f' => some '\x0c'
  | 'n' => some '\n'
  | 'r' => some '\r'
  | 't' => some '\t'
  | 'v' => some '\x0b'
  | '\\' => some '\\'
  | _ => none

/-- The character that a letter behind a backslash stands for where escape characters are known. -/
def printedEscape? (c : Char) : Option Char := if c = 'e' then some '\x1b' else letterEscape? c

/-- The character that the digits behind `\x` stand for, and what follows them. -/
def hexEscape? (cs : Octets) : Option (Char × Octets) :=
  let digits := (cs.take 2).takeWhile fun c => (digit? 16 c).isSome
  if digits.isEmpty then none
  else some (Char.ofNat ((ofDigits? 16 digits).getD 0), cs.drop digits.length)

/-- Replaces escapes, of which octal ones may begin with a zero. The flag tells whether `\c` ended
the text. Each step passes a character. -/
def replaceEscapes (knowsHex : Bool) : Nat → Octets → Octets × Bool
  | 0, cs => (cs, false)
  | steps + 1, cs =>
    let next (c : Char) (rest : Octets) : Octets × Bool :=
      let (text, ended) := replaceEscapes knowsHex steps rest
      (c :: text, ended)
    let octal (cs rest : Octets) : Octets × Bool :=
      let digits := (cs.take 3).takeWhile isOctal
      next (octalByte digits) (rest.drop digits.length)
    match cs with
    | [] => ([], false)
    | '\\' :: 'c' :: _ => ([], true)
    | '\\' :: '0' :: rest => octal rest rest
    | '\\' :: c :: rest =>
      if isOctal c then octal (c :: rest) (c :: rest)
      else
        match if knowsHex && c == 'x' then hexEscape? rest else none with
        | some (d, rest) => next d rest
        | none =>
          match printedEscape? c with
          | some d => next d rest
          | none => next '\\' (c :: rest)
    | c :: rest => next c rest

def echo (arguments : List Octets) : Act Nat := do
  let isSilent := arguments.head? == some "-n".toList
  let words := if isSilent then arguments.drop 1 else arguments
  let text := [' '].intercalate words
  let (text, ended) := replaceEscapes false text.length text
  Act.print (if isSilent || ended then text else text ++ ['\n'])
  return 0

/-- The utility `echo` as a program, which replaces escapes only if it is asked to. -/
def echoPlainly (arguments : List Octets) : Act Nat := do
  let isOption (a : Octets) : Bool := match a with
    | '-' :: letters => !letters.isEmpty && letters.all "neE".toList.contains
    | _ => false
  let options := arguments.takeWhile isOption
  let letters := options.flatten
  let escapes := (letters.filter fun c => c == 'e' || c == 'E').getLast? == some 'e'
  let text := [' '].intercalate (arguments.drop options.length)
  let (text, ended) := if escapes then replaceEscapes true text.length text else (text, false)
  Act.print (if letters.contains 'n' || ended then text else text ++ ['\n'])
  return 0

/-! ### Formats -/

structure Directive where
  leftAligned : Bool := false
  signed : Bool := false
  spaced : Bool := false
  alternate : Bool := false
  zeroPadded : Bool := false
  width : Nat := 0
  precision? : Option Nat := none
  /-- The letter that ends the directive, if the format goes so far. -/
  conversion? : Option Char := none

def Directive.pad (d : Directive) (text : Octets) : Octets :=
  let missing := d.width - text.length
  if d.leftAligned then text ++ List.replicate missing ' ' else List.replicate missing ' ' ++ text

def Directive.padNumber (d : Directive) (sign digits : Octets) : Octets :=
  let digits := match d.precision? with
    | some p => List.replicate (p - digits.length) '0' ++ digits
    | none =>
      if d.zeroPadded && !d.leftAligned then
        List.replicate (d.width - sign.length - digits.length) '0' ++ digits
      else digits
  d.pad (sign ++ digits)

inductive NumberFault where
  /-- It does not begin. -/
  | expected
  /-- Something follows it. -/
  | unfinished
  /-- It is too large. -/
  | outside
deriving DecidableEq

inductive Real where
  | finite (x : Binary64)
  | infinite (isNegative : Bool)
  | notANumber

def Directive.realText (d : Directive) (letter : Char) (x : Real) : Octets :=
  let places := d.precision?.getD 6
  let withMark (text : Octets) : Octets :=
    if d.alternate && !text.contains '.' then
      let front := text.takeWhile (· != 'e')
      front ++ '.' :: text.drop front.length
    else text
  let cased (text : Octets) : Octets := if letter.isUpper then text.map Char.toUpper else text
  let signOf (isNegative : Bool) : Octets :=
    if isNegative then ['-'] else if d.signed then ['+'] else if d.spaced then [' '] else []
  match x with
  | .finite x =>
    let text := match letter.toLower with
      | 'e' => Decimal.scientificText places x
      | 'f' => Decimal.fixedText places x
      | _ => Decimal.generalText d.alternate places x
    { d with precision? := none }.padNumber (signOf x.negative) (cased (withMark text))
  | .infinite isNegative => d.pad (signOf isNegative ++ cased "inf".toList)
  | .notANumber => d.pad (signOf false ++ cased "nan".toList)

structure Printing where
  /-- What was printed, the latest part first. -/
  parts : List Octets := []
  arguments : List Octets
  usesArguments : Bool := false
  ended : Bool := false
  /-- The arguments that are no numbers where numbers are wanted. -/
  faults : List (Octets × NumberFault) := []
  /-- The directive that was none, which ends the printing; it may lack its letter. -/
  broken? : Option Octets := none

namespace Printing

def add (p : Printing) (text : Octets) : Printing := { p with parts := text :: p.parts }

def take (p : Printing) : Option Octets × Printing :=
  match p.arguments with
  | [] => (none, { p with usesArguments := true })
  | a :: rest => (some a, { p with arguments := rest, usesArguments := true })

def blame (p : Printing) (text : Octets) (reason : NumberFault) : Printing :=
  { p with faults := p.faults ++ [(text, reason)] }

/-- Notes what is wrong with a number in front of the given rest, if anything is. -/
def checkRest (p : Printing) (text rest : Octets) (isOutside : Bool) : Printing :=
  if rest.length = text.length && !rest.isEmpty then p.blame text .expected
  else if !rest.isEmpty then p.blame text .unfinished
  else if isOutside then p.blame text .outside
  else p

/-- The number that the next argument holds; zero if there is none. -/
def takeNumber (p : Printing) : Int × Printing :=
  match p.take with
  | (none, p) => (0, p)
  | (some text, p) =>
    match text with
    | '"' :: c :: _ | '\'' :: c :: _ => (c.toNat, p)
    | _ =>
      let cs := skipSpace text
      let (negative, digits) := match cs with
        | '-' :: rest => (true, rest)
        | '+' :: rest => (false, rest)
        | _ => (false, cs)
      match numberAt? digits with
      | none => (0, p.checkRest text text false)
      | some (n, rest) =>
        let value := digits.take (digits.length - rest.length)
        let isOutside := n = UInt64.size / 2 - 1 && value != "9223372036854775807".toList
        (if negative then -n else n, p.checkRest text rest isOutside)

/-- The real number that the next argument holds; zero if there is none. -/
def takeReal (p : Printing) : Real × Printing :=
  match p.take with
  | (none, p) => (.finite Binary64.zero, p)
  | (some text, p) =>
    match text with
    | '"' :: c :: _ | '\'' :: c :: _ =>
      (.finite ((Binary64.ofQuotient? c.toNat 1).getD Binary64.zero), p)
    | _ =>
      let cs := skipSpace text
      let (negative, digits) := match cs with
        | '-' :: rest => (true, rest)
        | '+' :: rest => (false, rest)
        | _ => (false, cs)
      let word := (digits.takeWhile Char.isAlpha).map Char.toLower
      let hex? := match digits with
        | '0' :: x :: _ => if x.toLower == 'x' then numberAt? digits else none
        | _ => none
      if ["inf", "infinity"].contains (String.ofList word) then
        (.infinite negative, p.checkRest text (digits.drop word.length) false)
      else if word = "nan".toList then
        (.notANumber, p.checkRest text (digits.drop word.length) false)
      else
        let quotient? := match hex? with
          | some (n, rest) => some ((n.toNat, 1), rest)
          | none => Decimal.numeralAt? digits
        match quotient? with
        | none => (.finite Binary64.zero, p.checkRest text text false)
        | some ((num, den), rest) =>
          match Binary64.ofQuotient? num den with
          | none => (.infinite negative, p.checkRest text rest true)
          | some x => (.finite { x with negative }, p.checkRest text rest false)

/-- Ends the printing at a directive that is none. -/
def stop (p : Printing) (directive : Octets) : Printing :=
  { p with ended := true, broken? := some directive }

/-- Prints the next argument as a directive with the given letter says. -/
def apply (d : Directive) (letter : Char) (p : Printing) : Printing :=
  let unsigned (base : Nat) (n : Int) : Octets := Nat.toDigits base (toBits n)
  match letter with
  | 'd' | 'i' =>
    let (n, p) := p.takeNumber
    let sign := if n < 0 then ['-'] else if d.signed then ['+'] else if d.spaced then [' '] else []
    p.add (d.padNumber sign (toString n.natAbs).toList)
  | 'u' =>
    let (n, p) := p.takeNumber
    p.add (d.padNumber [] (unsigned 10 n))
  | 'o' =>
    let (n, p) := p.takeNumber
    p.add (d.padNumber (if d.alternate then ['0'] else []) (unsigned 8 n))
  | 'x' =>
    let (n, p) := p.takeNumber
    p.add (d.padNumber (if d.alternate && n != 0 then ['0', 'x'] else []) (unsigned 16 n))
  | 'X' =>
    let (n, p) := p.takeNumber
    p.add (d.padNumber (if d.alternate && n != 0 then ['0', 'X'] else [])
      ((unsigned 16 n).map Char.toUpper))
  | 'c' =>
    let (text?, p) := p.take
    p.add (d.pad [(text?.getD []).headD '\x00'])
  | 'b' =>
    let (text?, p) := p.take
    let text := text?.getD []
    let (text, ended) := replaceEscapes false text.length text
    let text := match d.precision? with
      | some n => text.take n
      | none => text
    { p.add (d.pad text) with ended }
  | 'e' | 'f' | 'g' | 'E' | 'F' | 'G' =>
    let (x, p) := p.takeReal
    p.add (d.realText letter x)
  | _ =>
    let (text?, p) := p.take
    let text := text?.getD []
    p.add (d.pad (match d.precision? with
      | some n => text.take n
      | none => text))

end Printing

def directiveFlags (d : Directive) : Octets → Directive × Octets
  | '-' :: cs => directiveFlags { d with leftAligned := true } cs
  | '+' :: cs => directiveFlags { d with signed := true } cs
  | ' ' :: cs => directiveFlags { d with spaced := true } cs
  | '#' :: cs => directiveFlags { d with alternate := true } cs
  | '0' :: cs => directiveFlags { d with zeroPadded := true } cs
  | cs => (d, cs)

/-- The number at the beginning, or the next argument for a star. -/
def directiveNumber (cs : Octets) (p : Printing) : Int × Octets × Printing :=
  match cs with
  | '*' :: rest =>
    let (n, p) := p.takeNumber
    (n, rest, p)
  | _ =>
    let digits := cs.takeWhile Char.isDigit
    (Int.ofNat (digitsValue 10 digits),
      cs.drop digits.length, p)

def directive (cs : Octets) (p : Printing) : Directive × Octets × Printing :=
  let (d, cs) := directiveFlags {} cs
  let (width, cs, p) := directiveNumber cs p
  let d := { d with width := width.natAbs, leftAligned := d.leftAligned || width < 0 }
  let (d, cs, p) := match cs with
    | '.' :: rest =>
      let (precision, cs, p) := directiveNumber rest p
      ({ d with precision? := if precision < 0 then none else some precision.toNat }, cs, p)
    | _ => (d, cs, p)
  ({ d with conversion? := cs.head? }, cs.drop 1, p)

/-- Prints a format once. Each step passes a character. -/
def printFormat : Nat → Octets → Printing → Printing
  | 0, _, p => p
  | steps + 1, cs, p =>
    if p.ended then p
    else
      match cs with
      | [] => p
      | '%' :: '%' :: rest => printFormat steps rest (p.add ['%'])
      | '%' :: rest =>
        let (d, after, p) := directive rest p
        match d.conversion? with
        | none => p.stop []
        | some c =>
          if "diuoxXcbsefgEFG".toList.contains c then printFormat steps after (p.apply d c)
          else p.stop ('%' :: rest.take (rest.length - after.length))
      | '\\' :: c :: rest =>
        if isOctal c then
          let digits := ((c :: rest).take 3).takeWhile isOctal
          printFormat steps ((c :: rest).drop digits.length) (p.add [octalByte digits])
        else
          match printedEscape? c with
          | some d => printFormat steps rest (p.add [d])
          | none => printFormat steps (c :: rest) (p.add ['\\'])
      | c :: rest => printFormat steps rest (p.add [c])

/-- Prints a format until the arguments are used up. Each round uses one of them at least. -/
def printRounds (format : Octets) : Nat → Printing → Printing
  | 0, p => p
  | rounds + 1, p =>
    let p := printFormat (format.length + 1) format { p with usesArguments := false }
    if p.ended || p.arguments.isEmpty || !p.usesArguments then p else printRounds format rounds p

def NumberFault.message (text : Octets) : NumberFault → String
  | .expected => Octets.text text ++ ": expected numeric value"
  | .unfinished => Octets.text text ++ ": not completely converted"
  | .outside => Octets.text text ++ ": Numerical result out of range"

def NumberFault.report (text : Octets) : NumberFault → String
  | .expected => quotedPath text ++ ": expected a numeric value"
  | .unfinished => quotedPath text ++ ": value not completely converted"
  | .outside => quotedPath text ++ ": Numerical result out of range"

def printf (arguments : List Octets) : Act Nat := do
  let refuse (text : String) : Act Nat := do
    Act.complain text
    return 2
  match arguments with
  | ['-', '-'] :: format :: rest => run format rest
  | [] | [['-', '-']] => refuse "usage: printf format [arg ...]"
  | ('-' :: c :: _) :: _ => refuse ("Illegal option -" ++ c.toString)
  | format :: rest => run format rest
where
  /-- Prints the arguments in the format. -/
  run (format : Octets) (rest : List Octets) : Act Nat := do
    let p := printRounds format (rest.length + 1) { arguments := rest }
    for (text, fault) in p.faults do
      Act.complain (fault.message text)
    match p.broken? with
    | none => pure ()
    | some [] => Act.complain "missing format character"
    | some shown => Act.complain (Octets.text shown ++ ": invalid directive")
    Act.print p.parts.reverse.flatten
    return if p.broken?.isSome then 2 else if p.faults.isEmpty then 0 else 1

def printfPlainly (arguments : List Octets) : Act Nat := do
  match if arguments.head? == some ['-', '-'] then arguments.drop 1 else arguments with
  | [] => reportUsage "printf" "missing operand"
  | format :: rest => do
    let p := printRounds format (rest.length + 1) { arguments := rest }
    Act.print p.parts.reverse.flatten
    for (text, fault) in p.faults do
      Act.warn ("printf: " ++ fault.report text)
    match p.broken? with
    | none => pure ()
    | some shown =>
      let shown := if shown.isEmpty then ['%'] else shown
      Act.warn ("printf: " ++ Octets.text shown ++ ": invalid conversion specification")
    match p.broken?, p.usesArguments, p.arguments with
    | none, false, a :: _ =>
      Act.warn ("printf: warning: ignoring excess arguments, starting with " ++ quotedPath a)
    | _, _, _ => pure ()
    return if p.broken?.isSome || !p.faults.isEmpty then 1 else 0

end ZoneGuard.Shell
