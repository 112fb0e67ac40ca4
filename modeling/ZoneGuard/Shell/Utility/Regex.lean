import ZoneGuard.Shell.State

/-!
# Regular expressions

Basic and extended regular expressions with groups. Of the matches that begin first the longest is
taken.
-/

namespace ZoneGuard.Shell

inductive CharTest where
  | any
  | char (c : Char)
  /-- A character in one of the ranges, or one in none of them. -/
  | oneOf (negated : Bool) (ranges : List (Char × Char))
deriving DecidableEq

inductive Regex where
  | empty
  | one (t : CharTest)
  | lineStart
  | lineEnd
  /-- A place between a character of a word and one that is none, or another place. -/
  | wordEdge (isEdge : Bool)
  /-- A place with a character of a word before it or behind it, or with none there. -/
  | beside (isBefore isWord : Bool)
  | both (first second : Regex)
  | either (first second : Regex)
  | repeated (least : Nat) (most? : Option Nat) (r : Regex)
  | group (n : Nat) (r : Regex)
  /-- What the group has matched, once more. -/
  | again (n : Nat)
deriving DecidableEq

def Regex.groupCount : Regex → Nat
  | .both a b | .either a b => a.groupCount + b.groupCount
  | .repeated _ _ r => r.groupCount
  | .group _ r => r.groupCount + 1
  | _ => 0

def CharTest.admits (ignoringCase : Bool) (t : CharTest) (c : Char) : Bool :=
  let same (d : Char) := d == c || ignoringCase && d.toLower == c.toLower
  match t with
  | .any => true
  | .char d => same d
  | .oneOf negated ranges =>
    ranges.any (fun (low, high) => low ≤ c && c ≤ high || low == high && same low) != negated

/-! ### Matching -/

/-- A place in a line: the character before it, what follows, and what groups have matched. -/
structure Place where
  before? : Option Char := none
  rest : Octets
  groups : List (Nat × Octets) := []

def Place.skip (p : Place) (text : Octets) : Place :=
  { p with before? := text.getLast?.or p.before?, rest := p.rest.drop text.length }

/-- The places behind repetitions of a step, longer ones first. Each repetition passes a character
or is one of those that have to be. -/
def repeatedPlaces (step : Place → List Place) : Nat → Nat → Option Nat → Place → List Place
  | 0, _, _, p => [p]
  | bound + 1, least, most?, p =>
    let next := if most? = some 0 then [] else step p
    let longer := (next.filter fun q => least != 0 || q.rest.length < p.rest.length).flatMap
      (repeatedPlaces step bound (least - 1) (most?.map (· - 1)))
    longer ++ if least = 0 then [p] else []

def Regex.places (ignoringCase : Bool) : Regex → Place → List Place
  | .empty, p => [p]
  | .one t, p =>
    match p.rest with
    | [] => []
    | c :: _ => if t.admits ignoringCase c then [p.skip [c]] else []
  | .lineStart, p => if p.before?.isNone then [p] else []
  | .lineEnd, p => if p.rest.isEmpty then [p] else []
  | .wordEdge isEdge, p =>
    if (p.before?.any isNameChar != p.rest.head?.any isNameChar) == isEdge then [p] else []
  | .beside isBefore isWord, p =>
    if (if isBefore then p.before?.any isNameChar else p.rest.head?.any isNameChar) == isWord
    then [p] else []
  | .both first second, p => (first.places ignoringCase p).flatMap (second.places ignoringCase)
  | .either first second, p => first.places ignoringCase p ++ second.places ignoringCase p
  | .repeated least most? r, p =>
    repeatedPlaces (r.places ignoringCase) (p.rest.length + least + 1) least most? p
  | .group n r, p =>
    (r.places ignoringCase p).map fun q =>
      { q with groups := (n, p.rest.take (p.rest.length - q.rest.length)) :: q.groups }
  | .again n, p =>
    let text := (p.groups.lookup n).getD []
    if text.isPrefixOf p.rest then [p.skip text] else []

structure Match where
  before : Octets := []
  found : Octets
  groups : List (Nat × Octets)
  rest : Octets

def Regex.matchAt? (r : Regex) (ignoringCase : Bool) (p : Place) : Option Match :=
  let longest? := (r.places ignoringCase p).foldl (fun best? q =>
    match best? with
    | some (best : Place) => some (if q.rest.length < best.rest.length then q else best)
    | none => some q) none
  longest?.map fun q =>
    { found := p.rest.take (p.rest.length - q.rest.length), groups := q.groups, rest := q.rest }

def Regex.find? (r : Regex) (ignoringCase : Bool) : Option Char → Octets → Option Match
  | before?, [] => r.matchAt? ignoringCase { before?, rest := [] }
  | before?, c :: cs =>
    match r.matchAt? ignoringCase { before?, rest := c :: cs } with
    | some m => some m
    | none => (r.find? ignoringCase (some c) cs).map fun m => { m with before := c :: m.before }

def Regex.isFoundIn (r : Regex) (ignoringCase : Bool) (line : Octets) : Bool :=
  (r.find? ignoringCase none line).isSome

/-- The matches in what follows a character, without empty ones, each with the number of characters
in front of it. Each step passes a match or a character. -/
def Regex.matchesIn (r : Regex) (ignoringCase : Bool) :
    Nat → Nat → Option Char → Octets → List (Nat × Octets)
  | 0, _, _, _ => []
  | steps + 1, place, before?, cs =>
    match r.find? ignoringCase before? cs with
    | none => []
    | some m =>
      let place := place + m.before.length
      if m.found.isEmpty then
        r.matchesIn ignoringCase steps (place + 1) m.rest.head? (m.rest.drop 1)
      else
        (place, m.found)
          :: r.matchesIn ignoringCase steps (place + m.found.length) m.found.getLast? m.rest

/-! ### Reading -/

/-- The regular expression that matches just a text. -/
def Regex.literal (cs : Octets) : Regex := cs.foldr (fun c r => .both (.one (.char c)) r) .empty

def classMembers (name : String) : Octets :=
  let all := (List.range 128).map Char.ofNat
  match name with
  | "upper" => all.filter Char.isUpper
  | "lower" => all.filter Char.isLower
  | "alpha" => all.filter Char.isAlpha
  | "digit" => all.filter Char.isDigit
  | "alnum" => all.filter Char.isAlphanum
  | "space" => "\t\n\x0b\x0c\r ".toList
  | "blank" => "\t ".toList
  | "punct" => all.filter fun c => 0x20 < c.toNat && c.toNat < 0x7F && !c.isAlphanum
  | "cntrl" => all.filter fun c => c.toNat < 0x20 || c.toNat == 0x7F
  | "xdigit" => all.filter fun c => c.isDigit || ('a' ≤ c && c ≤ 'f') || ('A' ≤ c && c ≤ 'F')
  | _ => []

/-- The ranges between brackets, and what follows. Each step passes a character. -/
def classRanges : Nat → Bool → Octets → List (Char × Char) × Octets
  | 0, _, cs => ([], cs)
  | steps + 1, isFirst, cs =>
    let next (ranges : List (Char × Char)) (rest : Octets) : List (Char × Char) × Octets :=
      let (more, rest) := classRanges steps false rest
      (ranges ++ more, rest)
    match cs with
    | [] => ([], [])
    | '[' :: ':' :: rest =>
      let name := rest.takeWhile Char.isAlpha
      next ((classMembers (String.ofList name)).map fun c => (c, c)) (rest.drop (name.length + 2))
    | low :: '-' :: high :: rest =>
      if low = ']' && !isFirst then ([], '-' :: high :: rest)
      else if high = ']' then next [(low, low)] ('-' :: high :: rest)
      else next [(low, high)] rest
    | c :: rest => if c = ']' && !isFirst then ([], rest) else next [(c, c)] rest

/-- What follows an operator, which is written with a backslash in a basic expression only. -/
def afterMark? (extended : Bool) (mark : Char) (cs : Octets) : Option Octets :=
  match extended, cs with
  | true, c :: rest => if c = mark then some rest else none
  | false, '\\' :: c :: rest => if c = mark then some rest else none
  | _, _ => none

def intervalAt? (extended : Bool) (cs : Octets) : Option (Nat × Option Nat × Octets) :=
  let low := cs.takeWhile Char.isDigit
  match cs.drop low.length with
  | ',' :: rest =>
    let high := rest.takeWhile Char.isDigit
    (afterMark? extended '\x7d' (rest.drop high.length)).map fun rest =>
      (digitsValue 10 low, if high.isEmpty then none else some (digitsValue 10 high), rest)
  | rest =>
    if low.isEmpty then none
    else
      (afterMark? extended '\x7d' rest).map fun rest =>
        (digitsValue 10 low, some (digitsValue 10 low), rest)

def repetitionAt? (extended : Bool) (cs : Octets) : Option (Nat × Option Nat × Octets) :=
  match cs with
  | '*' :: rest => some (0, none, rest)
  | _ =>
    match afterMark? extended '+' cs with
    | some rest => some (1, none, rest)
    | none =>
      match afterMark? extended '?' cs with
      | some rest => some (0, some 1, rest)
      | none => (afterMark? extended '\x7b' cs).bind (intervalAt? extended)

/-- The expression with the repetitions behind it. Each step passes one. -/
def withRepetitions (extended : Bool) : Nat → Regex → Octets → Regex × Octets
  | 0, r, cs => (r, cs)
  | steps + 1, r, cs =>
    match repetitionAt? extended cs with
    | some (least, most?, rest) => withRepetitions extended steps (.repeated least most? r) rest
    | none => (r, cs)

def escapedPart (c : Char) : Regex :=
  let wordRanges := [('a', 'z'), ('A', 'Z'), ('0', '9'), ('_', '_')]
  let spaceRanges := [(' ', ' '), ('\t', '\r')]
  match c with
  | 'n' => .one (.char '\n')
  | 't' => .one (.char '\t')
  | 'w' => .one (.oneOf false wordRanges)
  | 'W' => .one (.oneOf true wordRanges)
  | 's' => .one (.oneOf false spaceRanges)
  | 'S' => .one (.oneOf true spaceRanges)
  | 'b' => .wordEdge true
  | 'B' => .wordEdge false
  | '<' => .both (.beside true false) (.beside false true)
  | '>' => .both (.beside true true) (.beside false false)
  | '\x60' => .lineStart
  | '\'' => .lineEnd
  | c => if c.isDigit && c != '0' then .again (c.toNat - '0'.toNat) else .one (.char c)

def endsAlternative (extended : Bool) (cs : Octets) : Bool :=
  cs.isEmpty || (afterMark? extended '|' cs).isSome || (afterMark? extended ')' cs).isSome

/-- A part that is no group, and what follows. Basic expressions know the ends of the line only at
the ends of an alternative. -/
def plainPart (extended isFirst : Bool) (cs : Octets) : Regex × Octets :=
  match cs with
  | [] => (.empty, [])
  | '.' :: rest => (.one .any, rest)
  | '[' :: '^' :: rest =>
    let (ranges, rest) := classRanges (rest.length + 1) true rest
    (.one (.oneOf true ranges), rest)
  | '[' :: rest =>
    let (ranges, rest) := classRanges (rest.length + 1) true rest
    (.one (.oneOf false ranges), rest)
  | '\\' :: c :: rest => (escapedPart c, rest)
  | c :: rest =>
    if c = '^' && (extended || isFirst) then (.lineStart, rest)
    else if c = '$' && (extended || endsAlternative extended rest) then (.lineEnd, rest)
    else (.one (.char c), rest)

mutual

/-- Alternatives up to the end of their group, with the number of groups before and behind them. -/
def alternatives (extended : Bool) : Nat → Nat → Octets → Regex × Nat × Octets
  | 0, groups, cs => (.empty, groups, cs)
  | steps + 1, groups, cs =>
    let (first, groups, rest) := alternative extended steps true groups cs
    match afterMark? extended '|' rest with
    | none => (first, groups, rest)
    | some rest =>
      let (second, groups, rest) := alternatives extended steps groups rest
      (.either first second, groups, rest)

def alternative (extended : Bool) : Nat → Bool → Nat → Octets → Regex × Nat × Octets
  | 0, _, groups, cs => (.empty, groups, cs)
  | steps + 1, isFirst, groups, cs =>
    if endsAlternative extended cs then (.empty, groups, cs)
    else
      let (part, groups, rest) : Regex × Nat × Octets :=
        match afterMark? extended '(' cs with
        | some inner =>
          let n := groups + 1
          let (r, groups, rest) := alternatives extended steps n inner
          (.group n r, groups, (afterMark? extended ')' rest).getD rest)
        | none =>
          let (r, rest) := plainPart extended isFirst cs
          (r, groups, rest)
      let (part, rest) := if part = .lineStart && !extended then (part, rest)
        else withRepetitions extended rest.length part rest
      let (more, groups, rest) := alternative extended steps false groups rest
      (.both part more, groups, rest)

end

/-! ### Faults -/

inductive RegexFault where
  | openGroup
  | strayGroupEnd
  | openBracket
  | openInterval
  | badInterval
  | badRange
  | badClass
  | misplacedClass
  | badReference
  | endsInBackslash
deriving DecidableEq

def RegexFault.message : RegexFault → String
  | .openGroup => "Unmatched ( or \\("
  | .strayGroupEnd => "Unmatched ) or \\)"
  | .openBracket => "Unmatched [, [^, [:, [., or [="
  | .openInterval => "Unmatched \\\x7b"
  | .badInterval => "Invalid content of \\\x7b\\\x7d"
  | .badRange => "Invalid range end"
  | .badClass => "Invalid character class name"
  | .misplacedClass => "character class syntax is [[:space:]], not [:space:]"
  | .badReference => "Invalid back reference"
  | .endsInBackslash => "Trailing backslash"

/-- What follows the bracket that closes the one in front of the text. Each step passes a part. -/
def afterBracket : Nat → Bool → Octets → Except RegexFault Octets
  | 0, _, _ | _, _, [] => .error .openBracket
  | steps + 1, isFirst, cs =>
    match cs with
    | '[' :: ':' :: rest =>
      let name := rest.takeWhile Char.isAlpha
      if (rest.drop name.length).take 2 != [':', ']'] then .error .openBracket
      else if (classMembers (String.ofList name)).isEmpty then .error .badClass
      else afterBracket steps false (rest.drop (name.length + 2))
    | ']' :: rest => if isFirst then afterBracket steps false rest else .ok rest
    | low :: '-' :: high :: rest =>
      if high = ']' then .ok rest
      else if high < low then .error .badRange
      else afterBracket steps false rest
    | _ :: rest => afterBracket steps false rest
    | [] => .error .openBracket

/-- The fault of what is left of an expression, with the numbers of open and closed groups before
it. Each step passes a part. -/
def Regex.faultFrom? (extended : Bool) : Nat → Nat → Nat → Octets → Option RegexFault
  | 0, _, _, _ => none
  | steps + 1, isOpen, closed, cs =>
    let next := faultFrom? extended steps
    match afterMark? extended '(' cs, afterMark? extended ')' cs, afterMark? extended '\x7b' cs with
    | some rest, _, _ => next (isOpen + 1) closed rest
    | _, some rest, _ =>
      if 0 < isOpen then next (isOpen - 1) (closed + 1) rest
      else if extended then next 0 closed rest
      else some .strayGroupEnd
    | _, _, some rest =>
      match intervalAt? extended rest with
      | some (least, most?, rest) =>
        if most?.any (· < least) then some .badInterval else next isOpen closed rest
      | none =>
        if extended then next isOpen closed rest
        else if (rest.dropWhile fun c => c.isDigit || c == ',').isEmpty then some .openInterval
        else some .badInterval
    | none, none, none =>
      match cs with
      | [] => if 0 < isOpen then some .openGroup else none
      | ['\\'] => some .endsInBackslash
      | '\\' :: c :: rest =>
        if c.isDigit && c != '0' && closed < c.toNat - '0'.toNat then some .badReference
        else next isOpen closed rest
      | '[' :: rest =>
        let inner := if rest.head? == some '^' then rest.drop 1 else rest
        match afterBracket (inner.length + 1) true inner with
        | .error e => some e
        | .ok after =>
          let body := rest.take (rest.length - after.length - 1)
          if body.length > 1 && body.head? == some ':' && body.getLast? == some ':' then
            some .misplacedClass
          else next isOpen closed after
      | _ :: rest => next isOpen closed rest

/-- What is wrong with the expression that a text holds, if anything is. -/
def Regex.fault? (extended : Bool) (cs : Octets) : Option RegexFault :=
  faultFrom? extended (cs.length + 1) 0 0 cs

def Regex.ofText (extended : Bool) (cs : Octets) : Regex :=
  (alternatives extended (2 * cs.length + 2) 0 cs).1

example : (Regex.ofText false "^a\\(b*\\)c".toList).isFoundIn false "abbc".toList = true := by
  decide

end ZoneGuard.Shell
