import ZoneGuard.Shell.Utility.Options
import ZoneGuard.Shell.Utility.Printing

/-!
# Replacing characters

The utility `tr`: characters of one set become those at the same places of another one, are deleted,
or are kept only once where they repeat.
-/

namespace ZoneGuard.Shell

def characterClasses : List (String × (Char → Bool)) :=
  [("alpha", Char.isAlpha), ("digit", Char.isDigit), ("alnum", Char.isAlphanum),
   ("upper", Char.isUpper), ("lower", Char.isLower),
   ("space", fun c => c == ' ' || ('\t' ≤ c && c ≤ '\r')),
   ("blank", fun c => c == ' ' || c == '\t'),
   ("punct", fun c => '!' ≤ c && c ≤ '~' && !c.isAlphanum), ("print", fun c => ' ' ≤ c && c ≤ '~'),
   ("graph", fun c => '!' ≤ c && c ≤ '~'), ("cntrl", fun c => c < ' ' || c == '\x7f'),
   ("xdigit", fun c => c.isDigit || ('a' ≤ c && c ≤ 'f') || ('A' ≤ c && c ≤ 'F'))]

def allOctets : Octets := (List.range 256).map Char.ofNat

def octetsBetween (low high : Char) : Octets :=
  (List.range (high.toNat + 1 - low.toNat)).map fun i => Char.ofNat (low.toNat + i)

inductive SetPart where
  | chars (cs : Octets)
  /-- The letters of one case. -/
  | letters (isUpper : Bool)
  /-- Another class of characters. -/
  | members (cs : Octets)
  /-- One character, as often as the set has to be filled up. -/
  | fill (c : Char)

/-- The character at the beginning of a set, where a backslash may protect it, and what follows. -/
def setChar : Octets → Char × Octets
  | '\\' :: c :: rest =>
    if isOctal c then
      let digits := ((c :: rest).take 3).takeWhile isOctal
      (octalByte digits, (c :: rest).drop digits.length)
    else ((letterEscape? c).getD c, rest)
  | c :: rest => (c, rest)
  | [] => ('\\', [])

/-- The parts of a set, or what is wrong with it. Each step reads a part. -/
def setParts : Nat → Octets → Except String (List SetPart)
  | 0, _ | _, [] => .ok []
  | steps + 1, cs =>
    let more (part : SetPart) (rest : Octets) : Except String (List SetPart) :=
      (setParts steps rest).map (part :: ·)
    let plain : Except String (List SetPart) :=
      let (low, rest) := setChar cs
      match rest with
      | '-' :: c :: after =>
        let (high, after) := setChar (c :: after)
        if high < low then
          .error ("range-endpoints of '" ++ String.ofList [low, '-', high]
            ++ "' are in reverse collating sequence order")
        else more (.chars (octetsBetween low high)) after
      | _ => more (.chars [low]) rest
    match cs with
    | '[' :: ':' :: rest =>
      let name := Text.beforeFirst ':' rest
      match rest.drop name.length with
      | ':' :: ']' :: after =>
        let name := String.ofList name
        match name, characterClasses.lookup name with
        | "upper", _ => more (.letters true) after
        | "lower", _ => more (.letters false) after
        | _, some test => more (.members (allOctets.filter test)) after
        | _, none => .error ("invalid character class '" ++ name ++ "'")
      | _ => plain
    | '[' :: '=' :: c :: '=' :: ']' :: after => more (.members [c]) after
    | '[' :: rest =>
      let (c, rest) := setChar rest
      match rest with
      | '*' :: rest =>
        let digits := rest.takeWhile Char.isDigit
        match rest.drop digits.length with
        | ']' :: after =>
          let base := if digits.head? == some '0' then 8 else 10
          let count := digitsValue base digits
          more (if count = 0 then .fill c else .chars (List.replicate count c)) after
        | _ => plain
      | _ => plain
    | _ => plain

/-- The characters of a part, where one that fills up stands so many times. -/
def SetPart.octets (count : Nat) : SetPart → Octets
  | .chars cs | .members cs => cs
  | .letters isUpper => allOctets.filter fun c => if isUpper then c.isUpper else c.isLower
  | .fill c => List.replicate count c

def setMembers (size : Nat) (parts : List SetPart) : Octets :=
  let others := (parts.flatMap (·.octets 0)).length
  parts.flatMap (·.octets (size - others))

/-- The places at which the letters of one case begin in a set. -/
def casePlaces : Nat → List SetPart → List Nat
  | _, [] => []
  | place, part :: rest =>
    let more := casePlaces (place + (part.octets 0).length) rest
    match part with
    | .letters _ => place :: more
    | _ => more

/-- What is wrong with a pair of sets for replacing one by the other, if anything is. -/
def setsFault? (isTruncated isComplement : Bool) (first second : List SetPart) :
    Option String :=
  let isFill : SetPart → Bool
    | .fill _ => true
    | _ => false
  let isMembers : SetPart → Bool
    | .members _ => true
    | _ => false
  if first.any isFill then some "the [c*] repeat construct may not appear in string1"
  else if second.any isMembers then
    some ("when translating, the only character classes that may appear in\n"
      ++ "string2 are 'upper' and 'lower'")
  else if !isComplement && !(casePlaces 0 second).all (casePlaces 0 first).contains then
    some "misaligned [:upper:] and/or [:lower:] construct"
  else if !isTruncated && second.isEmpty then
    some "when not truncating set1, string2 must be non-empty"
  else none

def complementOf (set : Octets) : Octets := allOctets.filter fun c => !set.contains c

/-- The character that another one becomes. The last one of the second set stands for all that are
missing. -/
def translateChar (first second : Octets) (c : Char) : Char :=
  let place := first.length - 1 - first.reverse.idxOf c
  if first.contains c then (second[place]?.or second.getLast?).getD c else c

/-- The text with only one of equal characters of a set that stand together. -/
def squeeze (set : Octets) : Octets → Octets
  | [] => []
  | [c] => [c]
  | c :: d :: rest => if c == d && set.contains c then squeeze set (d :: rest)
    else c :: squeeze set (d :: rest)

def translated (a : Arguments) (first second : List SetPart) (text : Octets) : Octets :=
  let isComplement := a.hasAny "cC"
  let set := setMembers 0 first
  let set := if isComplement then complementOf set else set
  let other := setMembers set.length second
  if a.has 'd' then
    let text := text.filter fun c => !set.contains c
    if a.has 's' then squeeze other text else text
  else if second.isEmpty then squeeze set text
  else
    let set := if a.has 't' then set.take other.length else set
    let table := allOctets.map (translateChar set other)
    let text := text.map fun c => table.getD c.toNat c
    if a.has 's' then squeeze other text else text

def tr (arguments : List Octets) : Act Nat :=
  let table : OptionTable :=
    { utility := "tr", letters := "cCdst", permutes := false
      names := [("complement", 'c'), ("delete", 'd'), ("squeeze-repeats", 's'),
        ("truncate-set1", 't')] }
  let tooMany (operand : Octets) (reason : List String) : Act Nat := do
    Act.warn ("tr: extra operand " ++ quotedPath operand)
    for line in reason do
      Act.warn line
    Act.warn "Try 'tr --help' for more information."
    return 1
  let tooFew (operand : Octets) (reason : String) : Act Nat := do
    Act.warn ("tr: missing operand after " ++ quotedPath operand)
    Act.warn reason
    Act.warn "Try 'tr --help' for more information."
    return 1
  table.run arguments fun a => do
    let deletes := a.has 'd'
    let squeezes := a.has 's'
    let translates := !deletes && a.operands.length == 2
    match a.operands with
    | [] => reportUsage "tr" "missing operand"
    | [first] =>
      if deletes && squeezes then
        tooFew first "Two strings must be given when both deleting and squeezing repeats."
      else if !deletes && !squeezes then
        tooFew first "Two strings must be given when translating."
      else printTranslated a translates first []
    | [first, second] =>
      if deletes && !squeezes then
        tooMany second ["Only one string may be given when deleting without squeezing repeats."]
      else printTranslated a translates first second
    | _ :: _ :: third :: _ => tooMany third []
where
  /-- Prints the input translated. -/
  printTranslated (a : Arguments) (translates : Bool) (first second : Octets) : Act Nat := do
    for operand in [first, second] do
      let slashes := (operand.reverse.takeWhile (· == '\\')).length
      if slashes % 2 = 1 then
        Act.warn "tr: warning: an unescaped backslash at end of string is not portable"
    let read (text : Octets) := setParts (text.length + 1) text
    match read first, read second with
    | .error e, _ | _, .error e => do
      Act.warn ("tr: " ++ e)
      return 1
    | .ok first, .ok second =>
      match if translates then setsFault? (a.has 't') (a.hasAny "cC") first second
        else none with
      | some fault => do
        Act.warn ("tr: " ++ fault)
        return 1
      | none => do
        Act.print (translated a first second (← Act.readAll 0))
        return 0

end ZoneGuard.Shell
