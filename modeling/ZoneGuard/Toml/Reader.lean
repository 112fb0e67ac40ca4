import ZoneGuard.Numeric.Digit
import ZoneGuard.Toml.Table

/-!
# Reading TOML

Reads a document of TOML 1.0 into the same values that JSON is read into. Only that a document is
invalid is reported. Two kinds of values are kept in outline, because no setting has such a value: a
float only as some float, and a date or time only as an object with one member.
-/

namespace ZoneGuard.Toml

open Json (Value)

abbrev Read (α : Type) := Option (α × List Char)

/-! ### Blanks and comments -/

def isSpace (c : Char) : Bool := c == ' ' || c == '\t'

def skipSpaces (cs : List Char) : List Char := cs.dropWhile isSpace

/-- Whether the character may stand in a comment or in a string without being escaped. -/
def isVisible (c : Char) : Bool := c == '\t' || (0x20 ≤ c.toNat && c.toNat != 0x7F)

def lineBreak? : List Char → Option (List Char)
  | '\n' :: cs | '\r' :: '\n' :: cs => some cs
  | _ => none

def skipComment : List Char → List Char
  | '#' :: cs => cs.dropWhile isVisible
  | cs => cs

/-- What follows the rest of a line, on which nothing else may stand. -/
def endLine? (cs : List Char) : Option (List Char) :=
  match skipComment (skipSpaces cs) with
  | [] => some []
  | cs => lineBreak? cs

def skipLines (cs : List Char) : List Char :=
  go cs.length cs
where
  /-- Each step passes a line break, so the length bounds their number. -/
  go : Nat → List Char → List Char
    | 0, cs => cs
    | steps + 1, cs =>
      let cs := skipComment (skipSpaces cs)
      match lineBreak? cs with
      | some rest => go steps rest
      | none => cs

/-! ### Strings -/

/-- The character with the code point that the first `width` characters denote. -/
def codePoint? (width : Nat) (cs : List Char) : Read Char :=
  let digits := cs.take width
  if digits.length < width then none
  else
    match ofDigits? 16 digits with
    | some n => if n.isValidChar then some (Char.ofNat n, cs.drop width) else none
    | none => none

/-- The character of an escape, which is read from behind its backslash. -/
def escape? : List Char → Read Char
  | 'b' :: cs => some ('\x08', cs)
  | 't' :: cs => some ('\t', cs)
  | 'n' :: cs => some ('\n', cs)
  | 'f' :: cs => some ('\x0c', cs)
  | 'r' :: cs => some ('\r', cs)
  | '"' :: cs => some ('"', cs)
  | '\\' :: cs => some ('\\', cs)
  | 'u' :: cs => codePoint? 4 cs
  | 'U' :: cs => codePoint? 8 cs
  | _ => none

def skipBlankLines (cs : List Char) : List Char :=
  go cs.length cs
where
  /-- Each step takes a character at least. -/
  go : Nat → List Char → List Char
    | 0, cs => cs
    | steps + 1, cs =>
      let cs := skipSpaces cs
      match lineBreak? cs with
      | some cs => go steps cs
      | none => cs

/-- What follows a backslash at the end of a line and the blank lines behind it. -/
def continuedLine? (cs : List Char) : Option (List Char) :=
  (lineBreak? (skipSpaces cs)).map skipBlankLines

/-- The rest of a string on one line, from behind its opening quote. A quote `"` allows escapes. -/
def lineString (quote : Char) (cs : List Char) : Read String :=
  go cs.length [] cs
where
  /-- Each step takes a character; the ones of the string so far stand last first. -/
  go : Nat → List Char → List Char → Read String
    | 0, _, _ | _, _, [] => none
    | steps + 1, taken, c :: cs =>
      if c = quote then some (String.ofList taken.reverse, cs)
      else if c = '\\' && quote = '"' then
        match escape? cs with
        | some (d, cs) => go steps (d :: taken) cs
        | none => none
      else if isVisible c then go steps (c :: taken) cs
      else none

/-- The rest of a string over several lines, from behind its opening quotes. Up to two quotes may
stand before the closing ones. -/
def blockString (quote : Char) (cs : List Char) : Read String :=
  go (cs.length + 1) [] ((lineBreak? cs).getD cs)
where
  /-- Each step takes a character; the ones of the string so far stand last first. -/
  go : Nat → List Char → List Char → Read String
    | 0, _, _ | _, _, [] => none
    | steps + 1, taken, c :: cs =>
      if c = quote then
        let run := 1 + (cs.takeWhile (· == quote)).length
        let rest := cs.drop (run - 1)
        if run < 3 then go steps (List.replicate run quote ++ taken) rest
        else if run ≤ 5 then
          some (String.ofList (List.replicate (run - 3) quote ++ taken).reverse, rest)
        else none
      else if c = '\\' && quote = '"' then
        match continuedLine? cs with
        | some cs => go steps taken cs
        | none =>
          match escape? cs with
          | some (d, cs) => go steps (d :: taken) cs
          | none => none
      else
        match lineBreak? (c :: cs) with
        | some cs => go steps ('\n' :: taken) cs
        | none => if isVisible c then go steps (c :: taken) cs else none

def string? : List Char → Read String
  | '"' :: '"' :: '"' :: cs => blockString '"' cs
  | '\'' :: '\'' :: '\'' :: cs => blockString '\'' cs
  | '"' :: cs => lineString '"' cs
  | '\'' :: cs => lineString '\'' cs
  | _ => none

/-! ### Keys -/

/-- Whether the character may stand in a key without quotes. -/
def isBare (c : Char) : Bool := c.isAlphanum || c == '-' || c == '_'

/-- A key without dots, and the blanks around it. -/
def simpleKey (cs : List Char) : Read String :=
  let cs := skipSpaces cs
  let key? := match cs with
    | '"' :: rest => lineString '"' rest
    | '\'' :: rest => lineString '\'' rest
    | cs =>
      let key := cs.takeWhile isBare
      if key.isEmpty then none else some (String.ofList key, cs.drop key.length)
  key?.map fun (key, rest) => (key, skipSpaces rest)

/-- How many parts a key may have, and how deep values may be nested. -/
def maxDepth : Nat := 79

/-- A key with dots: the part before the last dot, and the last part. -/
def dottedKey (cs : List Char) : Read (List String × String) :=
  go maxDepth cs
where
  /-- Reads as many more parts. -/
  go : Nat → List Char → Read (List String × String)
    | 0, _ => none
    | parts + 1, cs =>
      match simpleKey cs with
      | none => none
      | some (key, '.' :: rest) =>
        match go parts rest with
        | some ((path, last), rest) => some ((key :: path, last), rest)
        | none => none
      | some (key, rest) => some (([], key), rest)

/-! ### Numbers, dates and times -/

def digitRun (base : Nat) (cs : List Char) : Read (List Char) :=
  match cs with
  | [] => none
  | c :: rest =>
    if (digit? base c).isSome then
      let (more, rest) := go rest
      some (c :: more, rest)
    else none
where
  /-- The digits that follow a digit. -/
  go : List Char → List Char × List Char
    | '_' :: c :: cs =>
      if (digit? base c).isSome then
        let (more, rest) := go cs
        (c :: more, rest)
      else ([], '_' :: c :: cs)
    | c :: cs =>
      if (digit? base c).isSome then
        let (more, rest) := go cs
        (c :: more, rest)
      else ([], c :: cs)
    | [] => ([], [])

/-- The number that as many decimal digits denote, if it is in the range. -/
def fixedDigits (width low high : Nat) (cs : List Char) : Read Nat :=
  let digits := cs.take width
  if digits.length < width then none
  else
    match ofDigits? 10 digits with
    | some n => if low ≤ n && n ≤ high then some (n, cs.drop width) else none
    | none => none

def daysIn (year month : Nat) : Nat :=
  if month == 2 then
    if year % 4 == 0 && (year % 100 != 0 || year % 400 == 0) then 29 else 28
  else if [4, 6, 9, 11].contains month then 30
  else 31

def date? (cs : List Char) : Option (List Char) :=
  match fixedDigits 4 0 9999 cs with
  | some (year, '-' :: cs) =>
    match fixedDigits 2 1 12 cs with
    | some (month, '-' :: cs) => (fixedDigits 2 1 (daysIn year month) cs).map (·.2)
    | _ => none
  | _ => none

def secondFraction : List Char → List Char
  | '.' :: c :: cs => if c.isDigit then cs.dropWhile Char.isDigit else '.' :: c :: cs
  | cs => cs

def time? (cs : List Char) : Option (List Char) :=
  match fixedDigits 2 0 23 cs with
  | some (_, ':' :: cs) =>
    match fixedDigits 2 0 59 cs with
    | some (_, ':' :: cs) => (fixedDigits 2 0 60 cs).map fun (_, cs) => secondFraction cs
    | _ => none
  | _ => none

def timeOffset : List Char → List Char
  | 'Z' :: cs | 'z' :: cs => cs
  | sign :: cs =>
    if sign = '+' || sign = '-' then
      match fixedDigits 2 0 23 cs with
      | some (_, ':' :: rest) =>
        match fixedDigits 2 0 59 rest with
        | some (_, rest) => rest
        | none => sign :: cs
      | _ => sign :: cs
    else sign :: cs
  | [] => []

/-- The value that stands for every date and time. -/
def dateValue : Value := .object [("$datetime", .null)]

def dateTime? (cs : List Char) : Read Value :=
  match date? cs with
  | some rest =>
    let withTime := match rest with
      | d :: after =>
        if d = 'T' || d = 't' || d = ' ' then (time? after).map timeOffset else none
      | [] => none
    some (dateValue, withTime.getD rest)
  | none => (time? cs).map fun rest => (dateValue, rest)

/-- The value that stands for every float. -/
def floatValue : Value := .number (.float Binary64.zero)

def exponent? : List Char → Read Int
  | c :: cs =>
    if c = 'e' || c = 'E' then
      let (down, cs) := match cs with
        | '-' :: cs => (true, cs)
        | '+' :: cs => (false, cs)
        | cs => (false, cs)
      (digitRun 10 cs).bind fun (digits, rest) =>
        (ofDigits? 10 digits).map fun n => ((if down then -n else n : Int), rest)
    else none
  | [] => none

/-- The fraction and the exponent of a float; it has to have one of them. -/
def floatTail? (cs : List Char) : Read (List Char × Int) :=
  match cs with
  | '.' :: rest =>
    (digitRun 10 rest).map fun (fraction, rest) =>
      match exponent? rest with
      | some (e, rest) => ((fraction, e), rest)
      | none => ((fraction, 0), rest)
  | cs => (exponent? cs).map fun (e, rest) => (([], e), rest)

/-- Whether a decimal is too large for a float, that is whether no finite one is nearest to it. Its
first digit other than zero tells how large it is, so that the exact value is needed only near the
bound. -/
def isTooLarge (digits : List Char) (exponent : Int) : Bool :=
  let digits := digits.dropWhile (· == '0')
  let magnitude := exponent + digits.length
  if digits.isEmpty || magnitude < 300 then false
  else if 400 < magnitude then true
  else
    (Binary64.ofQuotient? (digitsValue 10 digits * Nat.pow 10 exponent.toNat)
      (Nat.pow 10 (-exponent).toNat)).isNone

example : isTooLarge "17976931348623158079".toList 289 = false := by decide +kernel

example : isTooLarge "1797693134862315808".toList 290 = true := by decide +kernel

/-- The digits of the whole part of a decimal number, without a leading zero. -/
def wholeDigits? (cs : List Char) : Read (List Char) :=
  match cs with
  | '0' :: rest => some (['0'], rest)
  | cs => digitRun 10 cs

/-- An integer as a value if 64 bits hold it, so that it is its own balanced residue. -/
def integerValue? (n : Int) : Option Value :=
  if n.bmod UInt64.size = n then some (.number (.integer n)) else none

def decimal? (negative : Bool) (cs : List Char) : Read Value :=
  match wholeDigits? cs with
  | none => none
  | some (whole, rest) =>
    match floatTail? rest with
    | some ((fraction, e), rest) =>
      if !negative && isTooLarge (whole ++ fraction) (e - fraction.length) then none
      else some (floatValue, rest)
    | none =>
      (ofDigits? 10 whole).bind fun n =>
        (integerValue? (if negative then -n else n)).map fun v => (v, rest)

/-- A number in another base than ten, from behind the mark of its base. -/
def based? (base : Nat) (cs : List Char) : Read Value :=
  (digitRun base cs).bind fun (digits, rest) =>
    (ofDigits? base digits).bind fun n => (integerValue? n).map fun v => (v, rest)

/-- A number after its sign, or one of the two words for what is no number. -/
def signed? (negative : Bool) : List Char → Read Value
  | 'i' :: 'n' :: 'f' :: cs | 'n' :: 'a' :: 'n' :: cs => some (floatValue, cs)
  | cs => decimal? negative cs

def numeric? (cs : List Char) : Read Value :=
  match dateTime? cs with
  | some result => some result
  | none =>
    match cs with
    | '0' :: 'x' :: rest => based? 16 rest
    | '0' :: 'o' :: rest => based? 8 rest
    | '0' :: 'b' :: rest => based? 2 rest
    | '+' :: rest => signed? false rest
    | '-' :: rest => signed? true rest
    | cs => signed? false cs

/-! ### Values -/

/-- The values of an array up to its bracket, from behind its opening bracket or a comma. -/
def items (value : List Char → Read Value) : Nat → List Char → Read (List Value)
  | 0, _ => none
  | steps + 1, cs =>
    match skipLines cs with
    | ']' :: rest => some ([], rest)
    | cs =>
      match value cs with
      | none => none
      | some (v, rest) =>
        match skipLines rest with
        | ']' :: rest => some ([v], rest)
        | ',' :: rest =>
          match items value steps rest with
          | some (vs, rest) => some (v :: vs, rest)
          | none => none
        | _ => none

/-- An assignment: its key, an equals sign and a value, with the blanks around them. -/
def assignment (value : List Char → Read Value) (cs : List Char) :
    Read (List String × String × Value) :=
  match dottedKey cs with
  | some ((path, key), '=' :: rest) =>
    match value (skipSpaces rest) with
    | some (v, rest) => some ((path, key, v), skipSpaces rest)
    | none => none
  | _ => none

def inlineMembers (value : List Char → Read Value) : Nat → Members → List Char → Read Members
  | 0, _, _ => none
  | steps + 1, ms, cs =>
    match assignment value cs with
    | none => none
    | some ((path, key, v), rest) =>
      match ms.assign path key v, rest with
      | some ms, '\x7d' :: rest => some (ms, rest)
      | some ms, ',' :: rest => inlineMembers value steps ms rest
      | _, _ => none

/-- A value, in which arrays and inline tables may be nested to the given depth. -/
def value : Nat → List Char → Read Value
  | _, 't' :: 'r' :: 'u' :: 'e' :: cs => some (.bool true, cs)
  | _, 'f' :: 'a' :: 'l' :: 's' :: 'e' :: cs => some (.bool false, cs)
  | depth + 1, '[' :: cs => (items (value depth) (cs.length + 1) cs).map fun (vs, rest) =>
    (.array vs, rest)
  | depth + 1, '\x7b' :: cs =>
    match skipSpaces cs with
    | '\x7d' :: rest => some (.object [], rest)
    | cs => (inlineMembers (value depth) (cs.length + 1) [] cs).map fun (ms, rest) =>
      (.object (membersToValues ms), rest)
  | _, '"' :: cs => (string? ('"' :: cs)).map fun (s, rest) => (.string s, rest)
  | _, '\'' :: cs => (string? ('\'' :: cs)).map fun (s, rest) => (.string s, rest)
  | _, cs => numeric? cs

/-! ### Documents -/

/-- A document read in part: all its tables, and the path of the table that is open. -/
structure Document where
  root : Members := []
  «open» : List String := []

/-- The document after a header, which is read from behind its first bracket. -/
def header? (d : Document) (cs : List Char) : Read Document :=
  let (isElement, cs) := match cs with
    | '[' :: cs => (true, cs)
    | cs => (false, cs)
  match dottedKey cs with
  | none => none
  | some ((path, key), rest) =>
    let enter := if isElement then Members.openElement key else Members.openTable key
    let closed := match isElement, rest with
      | true, ']' :: ']' :: rest => some rest
      | false, ']' :: rest => some rest
      | _, _ => none
    match closed.bind endLine?, Members.changeAt path enter d.root with
    | some rest, some root => some (⟨root, path ++ [key]⟩, rest)
    | _, _ => none

/-- The document after an assignment on a line of its own. -/
def assign? (d : Document) (cs : List Char) : Read Document :=
  match assignment (value maxDepth) cs with
  | none => none
  | some ((path, key, v), rest) =>
    match endLine? rest, Members.changeAt d.open (Members.assign path key v) d.root with
    | some rest, some root => some ({ d with root }, rest)
    | _, _ => none

def lines : Nat → Document → List Char → Option Document
  | 0, _, _ => none
  | steps + 1, d, cs =>
    match skipSpaces cs with
    | [] => some d
    | '#' :: cs => (endLine? ('#' :: cs)).bind (lines steps d)
    | '[' :: cs => (header? d cs).bind fun (d, rest) => lines steps d rest
    | cs =>
      match lineBreak? cs with
      | some rest => lines steps d rest
      | none => (assign? d cs).bind fun (d, rest) => lines steps d rest

def parse? (text : String) : Option Value :=
  let cs := match text.toList with
    | '\uFEFF' :: cs => cs
    | cs => cs
  (lines (cs.length + 1) {} cs).map fun d => .object (membersToValues d.root)

end ZoneGuard.Toml
