import ZoneGuard.Shell.Utility.Regex

/-!
# Edit scripts

The language of `sed`: commands with the lines that they are for, and how they are read. A fault is
reported with its place in the script.
-/

namespace ZoneGuard.Shell

/-! ### Substitution -/

inductive CaseChange where
  | none
  | upper
  | lower
deriving DecidableEq

inductive ReplacementPart where
  | char (c : Char)
  /-- What a group matched, or the whole match for zero. -/
  | group (n : Nat)
  /-- From here on letters are changed. -/
  | change (goal : CaseChange)
  /-- The next letter is changed. -/
  | changeNext (goal : CaseChange)
deriving DecidableEq

/-- The parts of a replacement, in which an ampersand stands for the match. -/
def replacementParts : Octets → List ReplacementPart
  | [] => []
  | '\\' :: c :: rest =>
    let part : ReplacementPart := match c with
      | 'n' => .char '\n'
      | 't' => .char '\t'
      | 'r' => .char '\r'
      | 'f' => .char '\x0c'
      | 'v' => .char '\x0b'
      | 'a' => .char '\x07'
      | 'U' => .change .upper
      | 'L' => .change .lower
      | 'E' => .change .none
      | 'u' => .changeNext .upper
      | 'l' => .changeNext .lower
      | c => if c.isDigit then .group (digitValue c) else .char c
    part :: replacementParts rest
  | '&' :: rest => .group 0 :: replacementParts rest
  | c :: rest => .char c :: replacementParts rest

/-- The text with letters changed, the first one perhaps in another way. -/
def changeCase (all : CaseChange) (next? : Option CaseChange) (text : Octets) : Octets :=
  let apply (change : CaseChange) (c : Char) : Char := match change with
    | .none => c
    | .upper => c.toUpper
    | .lower => c.toLower
  match text with
  | [] => []
  | c :: cs => apply (next?.getD all) c :: cs.map (apply all)

def replacementText (m : Match) (parts : List ReplacementPart) : Octets :=
  let (text, _, _) := parts.foldl (fun (text, all, next?) part =>
    let add (found : Octets) : Octets × CaseChange × Option CaseChange :=
      (text ++ changeCase all next? found, all, if found.isEmpty then next? else none)
    match part with
    | .char c => add [c]
    | .group 0 => add m.found
    | .group n => add ((m.groups.lookup n).getD [])
    | .change goal => (text, goal, none)
    | .changeNext goal => (text, all, some goal)) (([] : Octets), CaseChange.none, none)
  text

structure Substitution where
  /-- Nothing stands for the expression that was used last. -/
  regex? : Option Regex
  replacement : List ReplacementPart
  /-- The first match that is replaced. -/
  first : Nat := 1
  /-- Whether later ones are replaced too. -/
  everywhere : Bool := false
  ignoringCase : Bool := false
  alsoPrint : Bool := false
  /-- The file to which a line with replacements is written. -/
  file? : Option Octets := none

/-- The text behind a character with matches replaced, and whether there was one to replace. A match
without characters right behind another match does not count. Each step passes a match or a
character. -/
def Substitution.apply (s : Substitution) (r : Regex) :
    Nat → Nat → Bool → Option Char → Octets → Octets × Bool
  | 0, _, _, _, cs => (cs, false)
  | steps + 1, index, isBehindMatch, before?, cs =>
    match r.find? s.ignoringCase before? cs with
    | none => (cs, false)
    | some m =>
      let counts := !(isBehindMatch && m.before.isEmpty && m.found.isEmpty)
      let isHit := counts && (index = s.first || s.everywhere && s.first < index)
      let shown := m.before ++ if isHit then replacementText m s.replacement else m.found
      let index := if counts then index + 1 else index
      if isHit && !s.everywhere then (shown ++ m.rest, true)
      else if m.found.isEmpty then
        match m.rest with
        | [] => (shown, isHit)
        | c :: cs =>
          let (text, more) := s.apply r steps index false (some c) cs
          (shown ++ c :: text, isHit || more)
      else
        let (text, more) := s.apply r steps index true m.found.getLast? m.rest
        (shown ++ text, isHit || more)

/-! ### Commands -/

inductive Address where
  | line (n : Nat)
  /-- Every so many lines from the first one on. -/
  | step (first step : Nat)
  | last
  /-- The lines in which an expression is found; nothing stands for the one that was used last. -/
  | holding (r? : Option Regex) (ignoringCase : Bool)

inductive RangeEnd where
  | at (a : Address)
  /-- So many lines behind the first. -/
  | plus (count : Nat)
  /-- The next line whose number is a multiple. -/
  | multiple (n : Nat)

/-- What a command does with the line that is held, which may have become several. -/
inductive Edit where
  | print
  | printFirst
  | number
  | list
  | path
  | delete
  | deleteFirst
  | clear
  | next
  | appendNext
  | hold
  | holdMore
  | get
  | getMore
  | exchange
  | append (text : Octets)
  | insert (text : Octets)
  | change (text : Octets)
  | replace (s : Substitution)
  | translate (first second : Octets)
  | label (name : Octets)
  /-- Goes on behind a label or at the end: in any case, or if something was replaced or nothing
  was. -/
  | goto (ifReplaced? : Option Bool) (label : Octets)
  | quit (status : Nat)
  | leave (status : Nat)
  | read (path : Octets)
  | write (path : Octets)
  | writeFirst (path : Octets)
  /-- Begins a block of as many commands. -/
  | block (count : Nat)

/-- A command for some lines, or for the lines that are not among them. -/
structure EditCommand where
  first? : Option Address := none
  last? : Option RangeEnd := none
  negated : Bool := false
  edit : Edit

/-! ### Reading -/

structure EditFault where
  rest : Octets
  text : String
  /-- Whether it is a block that is not closed, which has no place of its own. -/
  isOpen : Bool := false

def editFault {α : Type} (rest : Octets) (text : String) : Except EditFault α :=
  .error { rest, text }

/-- The text up to a delimiter, and what follows it. A backslash protects the delimiter, also
between brackets; a line feed may be written as a letter. -/
def untilDelimiter (delimiter : Char) : Octets → Option (Octets × Octets)
  | [] => none
  | '\\' :: c :: rest =>
    (untilDelimiter delimiter rest).map fun (text, rest) =>
      ((if c = delimiter then [c] else ['\\', c]) ++ text, rest)
  | c :: rest =>
    if c = delimiter then some ([], rest)
    else (untilDelimiter delimiter rest).map fun (text, rest) => (c :: text, rest)

def behindBlanks (cs : Octets) : Octets := cs.dropWhile fun c => c == ' ' || c == '\t'

/-- The number at the beginning, which is zero if there is none, and what follows. -/
def editNumber (cs : Octets) : Nat × Octets :=
  let digits := cs.takeWhile Char.isDigit
  (digitsValue 10 digits, cs.drop digits.length)

/-- The expression that a text holds, or nothing for an empty text, in front of the given rest. -/
def editRegex (extended : Bool) (text rest : Octets) : Except EditFault (Option Regex) :=
  if text.isEmpty then .ok none
  else
    match Regex.fault? extended text with
    | some e => editFault rest e.message
    | none => .ok (some (Regex.ofText extended text))

def addressAt (extended : Bool) (cs : Octets) : Except EditFault (Option Address × Octets) :=
  let regex (delimiter : Char) (rest : Octets) : Except EditFault (Option Address × Octets) := do
    match untilDelimiter delimiter rest with
    | none => editFault [] "unterminated address regex"
    | some (text, rest) =>
      let ignoringCase := rest.head? == some 'I'
      let rest := if ignoringCase then rest.drop 1 else rest
      let r? ← editRegex extended text rest
      return (some (.holding r? ignoringCase), rest)
  match cs with
  | '$' :: rest => .ok (some .last, rest)
  | '/' :: rest => regex '/' rest
  | '\\' :: delimiter :: rest => regex delimiter rest
  | c :: _ =>
    if !c.isDigit then .ok (none, cs)
    else
      let (n, rest) := editNumber cs
      match behindBlanks rest with
      | '~' :: rest =>
        let (step, rest) := editNumber (behindBlanks rest)
        .ok (some (.step n step), rest)
      | _ => .ok (some (.line n), rest)
  | [] => .ok (none, [])

def rangeEndAt (extended : Bool) (cs : Octets) : Except EditFault (RangeEnd × Octets) := do
  match cs with
  | '+' :: rest =>
    let (n, rest) := editNumber rest
    return (.plus n, rest)
  | '~' :: rest =>
    let (n, rest) := editNumber rest
    return (.multiple n, rest)
  | _ =>
    match ← addressAt extended cs with
    | (some a, rest) => return (.at a, rest)
    | (none, rest) => editFault (rest.drop 1) "unexpected \x60,'"

def editEnd (cs : Octets) : Except EditFault Octets :=
  match behindBlanks cs with
  | [] => .ok []
  | '\n' :: rest | ';' :: rest => .ok rest
  | '\x7d' :: rest => .ok ('\x7d' :: rest)
  | '#' :: rest => .ok ('#' :: rest)
  | _ :: rest => editFault rest "extra characters after command"

/-- The path at the beginning of the rest of a command, up to the end of the line. -/
def editPath (cs : Octets) : Except EditFault (Octets × Octets) :=
  let rest := behindBlanks cs
  let path := rest.takeWhile (· != '\n')
  if path.isEmpty then editFault rest "missing filename in r/R/w/W commands"
  else .ok (path, rest.drop (path.length + 1))

def editLabel (cs : Octets) : Octets × Octets :=
  let rest := behindBlanks cs
  let label := rest.takeWhile fun c => !";\n \t".toList.contains c
  (label, rest.drop label.length)

/-- The text of a command up to a line feed without a backslash before it, and what follows. -/
def editLines : Octets → Octets × Octets
  | [] => ([], [])
  | '\n' :: rest => ([], rest)
  | '\\' :: c :: rest =>
    let (text, rest) := editLines rest
    (c :: text, rest)
  | c :: rest =>
    let (text, rest) := editLines rest
    (c :: text, rest)

/-- The lines that a command adds, on the line of the command or behind a backslash. -/
def editText (cs : Octets) : Except EditFault (Octets × Octets) :=
  let line (cs : Octets) : Except EditFault (Octets × Octets) :=
    let (text, rest) := editLines cs
    .ok (text ++ ['\n'], rest)
  match behindBlanks cs with
  | [] => editFault [] "expected \\ after \x60a', \x60c' or \x60i'"
  | '\\' :: rest =>
    match behindBlanks rest with
    | '\n' :: text => if text.isEmpty then editFault [] incomplete else line text
    | [] => editFault [] incomplete
    | _ => line rest
  | text => line text
where
  /-- What is said where lines are announced and none follow. -/
  incomplete : String := "expected \\ after \x60a', \x60c' or \x60i'"

/-- The flags of a substitution, up to the end of its command. Each step passes one. -/
def substitutionFlags :
    Nat → Bool → Substitution → Octets → Except EditFault (Substitution × Octets)
  | 0, _, s, cs => .ok (s, cs)
  | steps + 1, hasNumber, s, cs =>
    match cs with
    | 'g' :: rest =>
      if s.everywhere then editFault rest "multiple \x60g' options to \x60s' command"
      else substitutionFlags steps hasNumber { s with everywhere := true } rest
    | 'p' :: rest =>
      if s.alsoPrint then editFault rest "multiple \x60p' options to \x60s' command"
      else substitutionFlags steps hasNumber { s with alsoPrint := true } rest
    | 'i' :: rest | 'I' :: rest =>
      substitutionFlags steps hasNumber { s with ignoringCase := true } rest
    | 'm' :: rest | 'M' :: rest => substitutionFlags steps hasNumber s rest
    | 'w' :: rest => do
      let (path, rest) ← editPath rest
      return ({ s with file? := some path }, rest)
    | ' ' :: rest => substitutionFlags steps hasNumber s rest
    | [] => .ok (s, [])
    | '\n' :: rest | ';' :: rest => .ok (s, rest)
    | '\x7d' :: rest => .ok (s, '\x7d' :: rest)
    | '#' :: rest => .ok (s, '#' :: rest)
    | c :: rest =>
      if !c.isDigit then editFault rest "unknown option to \x60s'"
      else
        let (n, rest) := editNumber (c :: rest)
        if hasNumber then editFault rest "multiple number options to \x60s' command"
        else if n = 0 then editFault rest "number option to \x60s' command may not be zero"
        else substitutionFlags steps true { s with first := n } rest

def substitutionAt (extended : Bool) (delimiter : Char) (cs : Octets) :
    Except EditFault (Edit × Octets) := do
  let unfinished : Except EditFault (Octets × Octets) := editFault [] "unterminated \x60s' command"
  let (pattern, rest) ← ((untilDelimiter delimiter cs).map .ok).getD unfinished
  let (text, rest) ← ((untilDelimiter delimiter rest).map .ok).getD unfinished
  let replacement := replacementParts text
  let (s, rest) ← substitutionFlags (rest.length + 1) false { regex? := none, replacement } rest
  let regex? ← editRegex extended pattern rest
  let groups := (regex?.map Regex.groupCount).getD 9
  match replacement.find? fun
      | .group n => groups < n
      | _ => false with
  | some (.group n) =>
    editFault rest
      ("invalid reference \\" ++ toString n ++ " on \x60s' command's RHS")
  | _ => return (.replace { s with regex? }, rest)

/-- The characters of a `y` command, in which a backslash may stand before itself and an `n`. -/
def tableChars : Octets → Octets
  | [] => []
  | '\\' :: 'n' :: rest => '\n' :: tableChars rest
  | '\\' :: '\\' :: rest => '\\' :: tableChars rest
  | c :: rest => c :: tableChars rest

def tableAt (delimiter : Char) (cs : Octets) : Except EditFault (Edit × Octets) := do
  let unfinished : Except EditFault (Octets × Octets) := editFault [] "unterminated \x60y' command"
  let (first, rest) ← ((untilDelimiter delimiter cs).map .ok).getD unfinished
  let (second, rest) ← ((untilDelimiter delimiter rest).map .ok).getD unfinished
  let first := tableChars first
  let second := tableChars second
  if first.length != second.length then
    editFault rest "strings for \x60y' command are different lengths"
  else return (.translate first second, ← editEnd rest)

/-- The edit at the beginning, which is no block, for as many addresses as given. -/
def editAt (extended : Bool) (addresses : Nat) (cs : Octets) :
    Except EditFault (Edit × Octets) := do
  let single (e : Edit) (rest : Octets) : Except EditFault (Edit × Octets) := do
    return (e, ← editEnd rest)
  let onFile (e : Octets → Edit) (rest : Octets) : Except EditFault (Edit × Octets) := do
    let (path, rest) ← editPath rest
    return (e path, rest)
  let withText (e : Octets → Edit) (rest : Octets) : Except EditFault (Edit × Octets) := do
    let (text, rest) ← editText rest
    return (e text, rest)
  let jump (ifReplaced? : Option Bool) (rest : Octets) : Except EditFault (Edit × Octets) := do
    let (label, rest) := editLabel rest
    let bare := label.takeWhile (· != '\x7d')
    if bare.length < label.length && bare.isEmpty then
      return (.goto ifReplaced? [], label ++ rest)
    else return (.goto ifReplaced? label, ← editEnd rest)
  let ending (e : Nat → Edit) (rest : Octets) : Except EditFault (Edit × Octets) :=
    if 1 < addresses then editFault rest "command only uses one address"
    else
      let (n, rest) := editNumber (behindBlanks rest)
      single (e (n % 256)) rest
  match cs with
  | [] => editFault [] "missing command"
  | 'p' :: rest => single .print rest
  | 'P' :: rest => single .printFirst rest
  | '=' :: rest => single .number rest
  | 'l' :: rest => single .list (editNumber (behindBlanks rest)).2
  | 'F' :: rest => single .path rest
  | 'd' :: rest => single .delete rest
  | 'D' :: rest => single .deleteFirst rest
  | 'z' :: rest => single .clear rest
  | 'n' :: rest => single .next rest
  | 'N' :: rest => single .appendNext rest
  | 'h' :: rest => single .hold rest
  | 'H' :: rest => single .holdMore rest
  | 'g' :: rest => single .get rest
  | 'G' :: rest => single .getMore rest
  | 'x' :: rest => single .exchange rest
  | 'q' :: rest => ending .quit rest
  | 'Q' :: rest => ending .leave rest
  | 'a' :: rest => withText .append rest
  | 'i' :: rest => withText .insert rest
  | 'c' :: rest => withText .change rest
  | 'r' :: rest => onFile .read rest
  | 'w' :: rest => onFile .write rest
  | 'W' :: rest => onFile .writeFirst rest
  | 'b' :: rest => jump none rest
  | 't' :: rest => jump (some true) rest
  | 'T' :: rest => jump (some false) rest
  | ':' :: rest =>
    if 0 < addresses then editFault rest ": doesn't want any addresses"
    else
      let (label, rest) := editLabel rest
      if label.isEmpty then editFault rest "\":\" lacks a label" else single (.label label) rest
  | 's' :: delimiter :: rest => substitutionAt extended delimiter rest
  | 's' :: [] => editFault [] "unterminated \x60s' command"
  | 'y' :: delimiter :: rest => tableAt delimiter rest
  | 'y' :: [] => editFault [] "unterminated \x60y' command"
  | c :: rest => editFault rest ("unknown command: \x60" ++ c.toString ++ "'")

/-- The commands of a script up to its end or to that of a block. Each step reads a command. -/
def editCommands (extended : Bool) :
    Nat → Bool → Octets → Except EditFault (List EditCommand × Octets)
  | 0, _, cs => editFault cs "missing command"
  | steps + 1, isNested, cs => do
    match cs.dropWhile " \t;\n".toList.contains with
    | [] =>
      if isNested then throw { rest := [], text := "unmatched \x60\x7b'", isOpen := true }
      else return ([], [])
    | '\x7d' :: rest =>
      if isNested then return ([], ← editEnd rest) else editFault rest "unexpected \x60\x7d'"
    | '#' :: rest => editCommands extended steps isNested (rest.dropWhile (· != '\n'))
    | '+' :: rest | '~' :: rest =>
      editFault (rest.drop 1) "invalid usage of +N or ~N as first address"
    | cs =>
      let (first?, rest) ← addressAt extended cs
      let rest := behindBlanks rest
      let (last?, rest) ← match first?, rest with
        | some _, ',' :: rest => do
          let (e, rest) ← rangeEndAt extended (behindBlanks rest)
          pure (some e, behindBlanks rest)
        | _, _ => pure ((none : Option RangeEnd), rest)
      let isZero := match first?, last? with
        | some (.line 0), some (.at (.holding _ _)) => false
        | some (.line 0), _ => true
        | _, _ => false
      if isZero then throw { rest := rest.drop 1, text := "invalid usage of line address 0" }
      let (negated, rest) := match rest with
        | '!' :: rest => (true, behindBlanks rest)
        | _ => (false, rest)
      if negated && rest.head? == some '!' then
        throw { rest := rest.drop 1, text := "multiple \x60!'s" }
      let addresses := first?.toList.length + last?.toList.length
      let (commands, rest) ← match rest with
        | '\x7b' :: rest => do
          let (body, rest) ← editCommands extended steps true rest
          let opening : EditCommand := { first?, last?, negated, edit := .block body.length }
          pure (opening :: body, rest)
        | '#' :: rest => editFault rest "comments don't accept any addresses"
        | '\x7d' :: rest =>
          editFault rest (if isNested then "\x60\x7d' doesn't want any addresses"
            else "unexpected \x60\x7d'")
        | _ => do
          let (edit, rest) ← editAt extended addresses rest
          pure ([({ first?, last?, negated, edit } : EditCommand)], rest)
      let (more, rest) ← editCommands extended steps isNested rest
      return (commands ++ more, rest)

/-- The labels that commands go on at and that are not there. -/
def missingLabels (commands : List EditCommand) : List Octets :=
  let known := commands.filterMap fun c => match c.edit with
    | .label name => some name
    | _ => none
  commands.filterMap fun c => match c.edit with
    | .goto _ label => if label.isEmpty || known.contains label then none else some label
    | _ => none

end ZoneGuard.Shell
