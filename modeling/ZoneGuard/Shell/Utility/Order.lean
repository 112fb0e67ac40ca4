import ZoneGuard.Numeric.Rounded
import ZoneGuard.Shell.Utility.Lines

/-!
# Sorted lines

The utilities that put lines in order and those that compare lines that stand next to each other.
Lines are compared by keys: parts of the lines that are texts, numbers, months or versions.
-/

namespace ZoneGuard.Shell

open Files (OsError)

def isLineBlank (c : Char) : Bool := c == ' ' || c == '\t'

/-- The order of words, in which characters count by their numbers. -/
def Octets.order : Octets → Octets → Ordering
  | [], [] => .eq
  | [], _ :: _ => .lt
  | _ :: _, [] => .gt
  | a :: as, b :: bs => (compare a.toNat b.toNat).then (Octets.order as bs)

/-! ### Values -/

/-- The number at the beginning of a text: an integer and the number of its last digits that are
behind the point. What is no number is zero. -/
def numericValue (text : Octets) : Int × Nat :=
  let cs := text.dropWhile isLineBlank
  let isNegative := cs.head? == some '-'
  let cs := if isNegative then cs.drop 1 else cs
  let whole := cs.takeWhile Char.isDigit
  let fraction := match cs.drop whole.length with
    | '.' :: rest => rest.takeWhile Char.isDigit
    | _ => []
  let n : Int := digitsValue 10 (whole ++ fraction)
  (if isNegative then -n else n, fraction.length)

def numericOrder (a b : Octets) : Ordering :=
  let (m, i) := numericValue a
  let (n, j) := numericValue b
  compare (m * (Nat.pow 10 j : Nat)) (n * (Nat.pow 10 i : Nat))

/-- The power of a thousand that the unit behind a number stands for, negative for negative ones. -/
def unitRank (text : Octets) : Int :=
  let cs := text.dropWhile isLineBlank
  let isNegative := cs.head? == some '-'
  let cs := if isNegative then cs.drop 1 else cs
  let unit? := (cs.dropWhile fun c => c.isDigit || c == '.').head?
  let rank := match unit? with
    | some c => "KMGTPEZYRQ".toList.idxOf (if c = 'k' then 'K' else c) + 1
    | none => 0
  if rank = 11 || (numericValue text).1 = 0 then 0 else if isNegative then -rank else rank

/-- The quotient that a text begins with, if it begins with a number. -/
def generalValue? (text : Octets) : Option (Int × Nat) :=
  let cs := text.dropWhile isLineBlank
  let (isNegative, cs) := match cs with
    | '-' :: rest => (true, rest)
    | '+' :: rest => (false, rest)
    | rest => (false, rest)
  (Decimal.numeralAt? cs).map fun ((num, den), _) => (if isNegative then -num else num, den)

/-- The order of quotients, before which comes what is none. -/
def generalOrder (a b : Octets) : Ordering :=
  match generalValue? a, generalValue? b with
  | none, none => .eq
  | none, some _ => .lt
  | some _, none => .gt
  | some (m, c), some (n, d) => compare (m * d) (n * c)

/-- The number of the month whose name a text begins with; zero if there is none. -/
def monthNumber (text : Octets) : Nat :=
  let name := ((text.dropWhile isLineBlank).take 3).map Char.toUpper
  let months := ["JAN", "FEB", "MAR", "APR", "MAY", "JUN", "JUL", "AUG", "SEP", "OCT", "NOV", "DEC"]
  (months.idxOf (String.ofList name) + 1) % 13

/-- The rank of a character of a version that is no digit. -/
def versionRank (c? : Option Char) : Int :=
  match c? with
  | none => 0
  | some c => if c.isDigit then 0 else if c.isAlpha then c.toNat else if c = '~' then -1
    else c.toNat + 256

/-- The order of versions: numbers in them count as numbers. Each step passes characters of both. -/
def versionOrder : Nat → Octets → Octets → Ordering
  | 0, _, _ | _, [], [] => .eq
  | steps + 1, a, b =>
    let begins (cs : Octets) : Bool := cs.head?.all Char.isDigit
    if !begins a || !begins b then
      match compare (versionRank a.head?) (versionRank b.head?) with
      | .eq => versionOrder steps (a.drop 1) (b.drop 1)
      | order => order
    else
      let m := a.takeWhile Char.isDigit
      let n := b.takeWhile Char.isDigit
      match compare (digitsValue 10 m) (digitsValue 10 n) with
      | .eq => versionOrder steps (a.drop m.length) (b.drop n.length)
      | order => order

def withoutEndings (text : Octets) : Octets :=
  let isEnding (part : Octets) : Bool :=
    part.head?.any (fun c => c.isAlpha || c == '~') && part.all fun c => c.isAlphanum || c == '~'
  match Text.splitAtEach '.' text with
  | [] => []
  | first :: rest => ['.'].intercalate (first :: (rest.reverse.dropWhile isEnding).reverse)

/-! ### Keys -/

/-- A part of a line by which lines are put in order. -/
structure SortKey where
  /-- The numbers of fields and characters in front of it. -/
  fields : Nat := 0
  chars : Nat := 0
  /-- The fields in front of its end, and the characters that it takes of the next one, or the whole
  if there are none. -/
  last? : Option (Nat × Nat) := none
  /-- Whether blanks at the beginning of the first or last field do not count. -/
  skipsFirst : Bool := false
  skipsLast : Bool := false
  /-- How it is compared. -/
  letters : Octets := []

/-- The rest of a line behind so many fields. -/
def skipFields (separator? : Option Char) : Nat → Octets → Octets
  | 0, line => line
  | n + 1, line =>
    match separator? with
    | some c => skipFields separator? n ((line.dropWhile (· != c)).drop 1)
    | none =>
      skipFields separator? n ((line.dropWhile isLineBlank).dropWhile fun c => !isLineBlank c)

def SortKey.part (k : SortKey) (separator? : Option Char) (line : Octets) : Octets :=
  let skip (skips : Bool) (cs : Octets) := if skips then cs.dropWhile isLineBlank else cs
  let start := (skip k.skipsFirst (skipFields separator? k.fields line)).drop k.chars
  let rest := match k.last?, separator? with
    | none, _ => []
    | some (fields, 0), some c => (skipFields separator? fields line).dropWhile (· != c)
    | some (fields, 0), none => skipFields separator? (fields + 1) line
    | some (fields, chars), _ =>
      (skip k.skipsLast (skipFields separator? fields line)).drop chars
  start.take (start.length - rest.length)

/-- The order of two parts by a key. -/
def SortKey.compare (k : SortKey) (a b : Octets) : Ordering :=
  let plain (text : Octets) : Octets :=
    let text := if k.letters.contains 'd'
      then text.filter fun c => c.isAlphanum || isLineBlank c else text
    let text := if k.letters.contains 'i' then text.filter fun c => ' ' ≤ c && c ≤ '~' else text
    if k.letters.contains 'f' then text.map Char.toUpper else text
  let order :=
    if k.letters.contains 'n' then numericOrder a b
    else if k.letters.contains 'h' then
      (Ord.compare (unitRank a) (unitRank b)).then (numericOrder a b)
    else if k.letters.contains 'g' then generalOrder a b
    else if k.letters.contains 'M' then Ord.compare (monthNumber a) (monthNumber b)
    else if k.letters.contains 'V' then
      let steps := a.length + b.length + 1
      (versionOrder steps (withoutEndings a) (withoutEndings b)).then (versionOrder steps a b)
    else Octets.order (plain a) (plain b)
  if k.letters.contains 'r' then order.swap else order

/-- A place in a line as a key gives it: a field, perhaps a character, and what follows. -/
def keyPlace (isStart : Bool) (text rest : Octets) : Except String (Nat × Nat × Octets) :=
  let missing (reason : String) (rest : Octets) : Except String (Nat × Nat × Octets) :=
    .error (reason ++ ": invalid count at start of " ++ quotedPath rest)
  let wrong (reason : String) : Except String (Nat × Nat × Octets) :=
    .error (reason ++ ": invalid field specification " ++ quotedPath text)
  let digits := rest.takeWhile Char.isDigit
  let field := digitsValue 10 digits
  if digits.isEmpty then
    missing (if isStart then "invalid number at field start" else "invalid number after ','") rest
  else if field = 0 then wrong "field number is zero"
  else
    match rest.drop digits.length with
    | '.' :: rest =>
      let digits := rest.takeWhile Char.isDigit
      let char := digitsValue 10 digits
      if digits.isEmpty then missing "invalid number after '.'" rest
      else if isStart && char = 0 then wrong "character offset is zero"
      else .ok (field - 1, char, rest.drop digits.length)
    | rest => .ok (field - 1, if isStart then 1 else 0, rest)

def orderLetters : Octets := "bdfghiMnRrV".toList

def SortKey.ofText (text : Octets) : Except String SortKey := do
  let (fields, char, rest) ← keyPlace true text text
  let letters := rest.takeWhile orderLetters.contains
  let k : SortKey :=
    { fields, chars := char - 1, skipsFirst := letters.contains 'b', letters }
  match rest.drop letters.length with
  | [] => return k
  | ',' :: rest => do
    let (fields, chars, rest) ← keyPlace false text rest
    let more := rest.takeWhile orderLetters.contains
    if more.length < rest.length then throw (stray text)
    else
      return { k with
        last? := some (fields, chars), skipsLast := more.contains 'b', letters := letters ++ more }
  | _ => throw (stray text)
where
  /-- What is wrong with a text that goes on where it should end. -/
  stray (text : Octets) : String :=
    "stray character in field spec: invalid field specification " ++ quotedPath text

/-! ### The utility -/

structure LineOrder where
  keys : List SortKey
  separator? : Option Char
  /-- Whether lines with equal keys are not compared as wholes. -/
  isStable : Bool
  isReversed : Bool

def LineOrder.byKeys (o : LineOrder) (a b : Octets) : Ordering :=
  o.keys.foldl (fun order k =>
    order.then (k.compare (k.part o.separator? a) (k.part o.separator? b))) .eq

def LineOrder.compare (o : LineOrder) (a b : Octets) : Ordering :=
  let whole := Octets.order a b
  (o.byKeys a b).then (if o.isStable then .eq else if o.isReversed then whole.swap else whole)

/-- The first line of each run in which no line differs from the one before. -/
def distinctLines (isSame : Octets → Octets → Bool) : List Octets → List Octets
  | [] => []
  | line :: rest =>
    line :: match rest with
      | [] => []
      | next :: _ =>
        if isSame line next then (distinctLines isSame rest).drop 1 else distinctLines isSame rest

/-- The first line that does not follow the line before it, with its number. -/
def firstDisorder? (follows : Octets → Octets → Bool) :
    Nat → List Octets → Option (Nat × Octets)
  | number, a :: b :: rest =>
    if follows a b then firstDisorder? follows (number + 1) (b :: rest) else some (number + 1, b)
  | _, _ => none

/-- The order that the options of `sort` ask for. -/
def lineOrder (a : Arguments) : Except String LineOrder := do
  let separator? ← match a.value? 't' with
    | none => pure none
    | some [] => throw "empty tab"
    | some [c] => pure (some c)
    | some ['\\', '0'] => pure (some '\x00')
    | some text => throw ("multi-character tab " ++ quotedPath text)
  let letters := (a.options.map (·.1)).filter orderLetters.contains
  let skips := letters.contains 'b'
  let keys ← (a.valuesOf 'k').mapM SortKey.ofText
  let whole : SortKey := { letters, skipsFirst := skips, skipsLast := skips }
  let keys := keys.map fun k =>
    if k.letters.isEmpty then { k with letters, skipsFirst := skips, skipsLast := skips } else k
  return { keys := if keys.isEmpty then [whole] else keys, separator?,
           isStable := a.hasAny "su", isReversed := letters.contains 'r' }

/-- The contents of operands, up to the first that cannot be read. -/
def readInputs (operands : List Octets) : Act (Except (Octets × OsError) (List Octets)) := do
  let mut contents := []
  for path in if operands.isEmpty then [['-']] else operands do
    match ← Act.readOperand path with
    | .ok content => contents := contents ++ [content]
    | .error e => return .error (path, e)
  return .ok contents

def sort (arguments : List Octets) : Act Nat :=
  let table : OptionTable :=
    { utility := "sort", letters := "bdfghiMnRrVcCmsuz", valued := "kotST", status := 2
      names := [("reverse", 'r'), ("numeric-sort", 'n'), ("key", 'k'), ("field-separator", 't'),
        ("output", 'o'), ("unique", 'u'), ("check", 'c'), ("stable", 's'), ("ignore-case", 'f'),
        ("ignore-leading-blanks", 'b'), ("dictionary-order", 'd'), ("version-sort", 'V'),
        ("human-numeric-sort", 'h'), ("general-numeric-sort", 'g'), ("month-sort", 'M'),
        ("zero-terminated", 'z'), ("merge", 'm'), ("ignore-nonprinting", 'i')] }
  let refuse (text : String) : Act Nat := do
    Act.warn ("sort: " ++ text)
    return 2
  table.run arguments fun a => do
    match lineOrder a with
    | .error fault => refuse fault
    | .ok order =>
      match ← readInputs a.operands with
      | .error (path, .isADirectory) =>
        refuse ("read failed: " ++ shownPath path ++ ": " ++ OsError.reason .isADirectory)
      | .error (path, e) => refuse ("cannot read: " ++ shownPath path ++ ": " ++ e.reason)
      | .ok contents =>
        let ending := if a.has 'z' then '\x00' else '\n'
        let lines := contents.flatMap (linesBy ending)
        if a.hasAny "cC" then
          let follows (x y : Octets) : Bool :=
            let limit := if a.has 'u' then order.byKeys x y else order.compare x y
            limit == .lt || limit == .eq && !a.has 'u'
          match firstDisorder? follows 1 lines with
          | none => return 0
          | some (number, line) =>
            if !a.has 'C' then
              let path := a.operands.headD ['-']
              Act.warn ("sort: " ++ Octets.text path ++ ":" ++ toString number ++ ": disorder: "
                ++ Octets.text line)
            return 1
        else
          let sorted := lines.mergeSort fun x y => order.compare x y != .gt
          let sorted :=
            if a.has 'u' then distinctLines (fun x y => order.byKeys x y == .eq) sorted else sorted
          let text := sorted.flatMap (· ++ [ending])
          match a.value? 'o' with
          | none => do
            Act.print text
            return 0
          | some path =>
            match ← Act.writeFile path text false with
            | none => return 0
            | some e => refuse ("open failed: " ++ shownPath path ++ ": " ++ e.reason)

/-! ### Repeated lines -/

/-- The part of a line that counts when it is compared with its neighbours. -/
def comparedPart (a : Arguments) (line : Octets) : Octets :=
  let rest := (skipFields none (numberOr 0 ((a.value? 'f').getD [])) line).drop
    (numberOr 0 ((a.value? 's').getD []))
  let part := match a.value? 'w' with
    | some n => rest.take (numberOr rest.length n)
    | none => rest
  if a.has 'i' then part.map Char.toUpper else part

def lineRuns (isSame : Octets → Octets → Bool) : List Octets → List (List Octets)
  | [] => []
  | line :: rest =>
    match lineRuns isSame rest with
    | (next :: run) :: runs =>
      if isSame line next then (line :: next :: run) :: runs else [line] :: (next :: run) :: runs
    | runs => [line] :: runs

def runLines (a : Arguments) (run : List Octets) : List Octets :=
  let isRepeated := run.length > 1
  let shows :=
    if a.has 'd' || a.has 'D' then isRepeated && !a.has 'u' else !(a.has 'u' && isRepeated)
  let shown := if a.has 'D' then run else run.take 1
  if !shows then []
  else if a.has 'c' then shown.map fun line => rightAligned 7 run.length ++ ' ' :: line
  else shown

def uniq (arguments : List Octets) : Act Nat :=
  let table : OptionTable :=
    { utility := "uniq", letters := "cdDuiz", valued := "fsw"
      names := [("count", 'c'), ("repeated", 'd'), ("all-repeated", 'D'), ("unique", 'u'),
        ("ignore-case", 'i'), ("skip-fields", 'f'), ("skip-chars", 's'), ("check-chars", 'w'),
        ("zero-terminated", 'z')] }
  let arguments := arguments.map fun argument => match argument with
    | '-' :: d :: ds => if (d :: ds).all Char.isDigit then '-' :: 'f' :: d :: ds else argument
    | _ => argument
  let refuse (text : String) : Act Nat := do
    Act.warn ("uniq: " ++ text)
    return 1
  table.run arguments fun a => do
    let counts := [('f', "fields to skip"), ('s', "bytes to skip"), ('w', "bytes to compare")]
    let wrong? := counts.findSome?
      fun (letter, what) => match a.value? letter with
        | some text => if text.isEmpty || !text.all Char.isDigit then some (text, what) else none
        | none => none
    match wrong?, a.operands with
    | some (text, what), _ => refuse (Octets.text text ++ ": invalid number of " ++ what)
    | none, _ :: _ :: third :: _ => reportUsage "uniq" ("extra operand " ++ quotedPath third)
    | none, operands =>
      let path := operands.headD ['-']
      match ← Act.readOperand path with
      | .error .isADirectory =>
        refuse ("error reading " ++ quotedPath path ++ ": " ++ OsError.reason .isADirectory)
      | .error e => refuse (shownPath path ++ ": " ++ e.reason)
      | .ok content =>
        let ending := if a.has 'z' then '\x00' else '\n'
        let runs := lineRuns (fun x y => comparedPart a x == comparedPart a y)
          (linesBy ending content)
        let text := (runs.flatMap (runLines a)).flatMap (· ++ [ending])
        match operands with
        | [_, goal] =>
          match ← Act.writeFile goal text false with
          | none => return 0
          | some e => refuse (shownPath goal ++ ": " ++ e.reason)
        | _ => do
          Act.print text
          return 0

/-! ### Common lines -/

structure Comparison where
  /-- The column of each line, the latest first. -/
  found : List (Nat × Octets) := []
  /-- Whether some line was in one text only. -/
  isUneven : Bool := false
  /-- The texts that are not in order. -/
  disordered : List Nat := []

/-- Notes a text that is not in order, which counts once some line was in one text only. -/
def Comparison.check (c : Comparison) (number : Nat) (first second? : Option Octets) :
    Comparison :=
  match first, second? with
  | some a, some b =>
    if c.isUneven && Octets.order a b == .gt && !c.disordered.contains number
    then { c with disordered := c.disordered ++ [number] } else c
  | _, _ => c

/-- Compares the lines of two texts behind others, the latest of which come in reverse. Each step
passes a line of one of them or both. -/
def compareLines : Nat → Comparison → List Octets → List Octets → List Octets → List Octets →
    Comparison
  | 0, c, _, _, _, _ | _, c, _, [], _, [] => c
  | steps + 1, c, before, first, before', second =>
    let order := match first, second with
      | [], _ => Ordering.gt
      | _, [] => .lt
      | a :: _, b :: _ => Octets.order a b
    let (column, line) := match order with
      | .lt => (0, first.headD [])
      | .gt => (1, second.headD [])
      | .eq => (2, first.headD [])
    let c := { c with
      found := (column, line) :: c.found, isUneven := c.isUneven || order != .eq }
    let advance (number : Nat) (c : Comparison) (before rest : List Octets) :
        Comparison × List Octets × List Octets :=
      let before := rest.head?.toList ++ before
      let rest := rest.drop 1
      match rest with
      | next :: _ => (c.check number before.head? (some next), before, rest)
      | [] => (c.check number (before.drop 1).head? before.head?, before, rest)
    let (c, before', second) :=
      if order != .lt then advance 2 c before' second else (c, before', second)
    let (c, before, first) :=
      if order != .gt then advance 1 c before first else (c, before, first)
    compareLines steps c before first before' second

def comm (arguments : List Octets) : Act Nat :=
  let table : OptionTable :=
    { utility := "comm", letters := "123nz", valued := "o"
      names := [("nocheck-order", 'n'), ("output-delimiter", 'o'), ("zero-terminated", 'z')] }
  table.run arguments fun a => do
    match a.operands with
    | [] => reportUsage "comm" "missing operand"
    | [first] => reportUsage "comm" ("missing operand after " ++ quotedPath first)
    | _ :: _ :: third :: _ => reportUsage "comm" ("extra operand " ++ quotedPath third)
    | operands =>
      match ← readInputs operands with
      | .error (path, e) => do
        reportPlain "comm" path e
        return 1
      | .ok contents =>
        let ending := if a.has 'z' then '\x00' else '\n'
        let first := linesBy ending (contents.getD 0 [])
        let second := linesBy ending (contents.getD 1 [])
        let c := compareLines (first.length + second.length) {} [] first [] second
        let gap := (a.value? 'o').getD ['\t']
        let hides (column : Nat) : Bool := a.has (Char.ofNat ('1'.toNat + column))
        for (column, line) in c.found.reverse do
          if !hides column then
            let before := (List.range column).filter fun i => !hides i
            Act.print ((before.flatMap fun _ => gap) ++ line ++ [ending])
        let disordered := if a.has 'n' then [] else c.disordered
        for number in disordered do
          Act.warn ("comm: file " ++ toString number ++ " is not in sorted order")
        if !disordered.isEmpty then Act.warn "comm: input is not in sorted order"
        return if disordered.isEmpty then 0 else 1

/-! ### Parts of lines -/

inductive PositionFault where
  | zero
  | wrong (text : Octets)
  | decreasing
  | endless
  | tooLarge (text : Octets)

def PositionFault.message (ofFields : Bool) : PositionFault → String
  | .zero => if ofFields then "fields are numbered from 1"
    else "byte/character positions are numbered from 1"
  | .wrong text => "invalid " ++ (if ofFields then "field value " else "byte/character position ")
    ++ quotedPath text
  | .decreasing => "invalid decreasing range"
  | .endless => "invalid range with no endpoint: -"
  | .tooLarge text => (if ofFields then "field number " else "byte/character offset ")
    ++ quotedPath text ++ " is too large"

/-- The first and the last position of one range; the last may be open. -/
def positionRange (text : Octets) : Except PositionFault (Nat × Option Nat) := do
  let first := Text.beforeFirst '-' text
  let isRange := first.length < text.length
  let last := text.drop (first.length + 1)
  for part in [first, last] do
    if !part.all Char.isDigit then throw (.wrong (part.dropWhile Char.isDigit))
    if UInt64.size ≤ digitsValue 10 part + 1 then throw (.tooLarge part)
  let m := digitsValue 10 first
  let n := digitsValue 10 last
  if text = ['-'] then throw .endless
  else if !isRange then
    if m = 0 then throw .zero else return (m, some m)
  else if !first.isEmpty && m = 0 then throw .zero
  else if last.isEmpty then return (m, none)
  else if n < max 1 m then throw .decreasing
  else return (max 1 m, some n)

def positionRanges (text : Octets) : Except PositionFault (List (Nat × Option Nat)) :=
  (Text.splitAtEach ',' (text.map fun c => if isLineBlank c then ',' else c)).mapM fun part =>
    if part.isEmpty then .error .zero else positionRange part

def isSelected (ranges : List (Nat × Option Nat)) (n : Nat) : Bool :=
  ranges.any fun (first, last?) => first ≤ n && last?.all (n ≤ ·)

def selectedRuns {α : Type} (ranges : List (Nat × Option Nat)) (complement : Bool)
    (items : List α) : List (List α) :=
  let isChosen (n : Nat) : Bool := isSelected ranges n != complement
  let begins (n : Nat) : Bool := !complement && ranges.any (·.1 == n)
    && !ranges.any fun (first, last?) => first < n && last?.all (n ≤ ·)
  (items.zipIdx 1).foldr (fun (item, n) (runs : List (List α)) =>
    if !isChosen n then [] :: runs
    else
      match runs with
      | run :: rest => if begins n then [] :: (item :: run) :: rest else (item :: run) :: rest
      | [] => [[item]]) [] |>.filter fun run => !run.isEmpty

def cutLine (a : Arguments) (ofFields : Bool) (ranges : List (Nat × Option Nat)) (line : Octets) :
    Option Octets :=
  let complement := a.has 'C'
  let gap? := a.value? 'O'
  if ofFields then
    let delimiter := ((a.value? 'd').getD ['\t']).headD '\x00'
    if !line.contains delimiter then (if a.has 's' then none else some line)
    else
      let fields := (selectedRuns ranges complement (Text.splitAtEach delimiter line)).flatten
      some ((gap?.getD [delimiter]).intercalate fields)
  else some ((gap?.getD []).intercalate (selectedRuns ranges complement line))

def cut (arguments : List Octets) : Act Nat :=
  let table : OptionTable :=
    { utility := "cut", letters := "nszC", valued := "bcfdO"
      names := [("bytes", 'b'), ("characters", 'c'), ("fields", 'f'), ("delimiter", 'd'),
        ("only-delimited", 's'), ("complement", 'C'), ("output-delimiter", 'O'),
        ("zero-terminated", 'z')] }
  table.run arguments fun a => do
    let lists := a.options.filter fun (letter, _) => "bcf".toList.contains letter
    match lists with
    | [] => reportUsage "cut" "you must specify a list of bytes, characters, or fields"
    | _ :: _ :: _ => reportUsage "cut" "only one list may be specified"
    | [(letter, text)] =>
      let ofFields := letter == 'f'
      if ((a.value? 'd').getD []).length > 1 then
        reportUsage "cut" "the delimiter must be a single character"
      else if !ofFields && a.has 'd' then
        reportUsage "cut" "an input delimiter may be specified only when operating on fields"
      else if !ofFields && a.has 's' then
        reportUsage "cut"
          "suppressing non-delimited lines makes sense\n\tonly when operating on fields"
      else
        match positionRanges text with
        | .error e => reportUsage "cut" (e.message ofFields)
        | .ok ranges =>
          let ending := if a.has 'z' then '\x00' else '\n'
          forInputs a.operands (reportPlain "cut") fun _ content => do
            let lines := (linesBy ending content).filterMap (cutLine a ofFields ranges)
            Act.print (lines.flatMap (· ++ [ending]))
            return 0

end ZoneGuard.Shell
