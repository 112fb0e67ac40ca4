import ZoneGuard.Sha256
import ZoneGuard.Shell.Utility.Order

/-!
# Bytes of files

The utilities that show, compare, copy and encode files byte by byte.
-/

namespace ZoneGuard.Shell

open Files (OsError)

/-! ### Dumps -/

inductive DumpKind where
  | char
  | name
  | number (base : Nat) (isSigned : Bool)
deriving DecidableEq

/-- A kind, and how many bytes are shown together. -/
structure DumpType where
  kind : DumpKind
  size : Nat := 1

namespace DumpType

def width (t : DumpType) : Nat :=
  match t.kind with
  | .char | .name => 3
  | .number base isSigned =>
    let digits := (Nat.toDigits base (Nat.pow 256 t.size / (if isSigned then 2 else 1) - 1)).length
    if isSigned then digits + 1 else digits

/-- The types by their letters. Each step passes a letter. -/
def ofLetters : Nat → Octets → Option (List DumpType)
  | 0, _ | _, [] => some []
  | steps + 1, c :: rest =>
    let digits := rest.takeWhile Char.isDigit
    let (size, after) := match rest.drop digits.length with
      | 'C' :: rest => (1, rest)
      | 'S' :: rest => (2, rest)
      | 'I' :: rest => (4, rest)
      | 'L' :: rest => (8, rest)
      | rest => (if digits.isEmpty then 4 else digitsValue 10 digits, rest)
    let number (base : Nat) (isSigned : Bool) : Option (List DumpType) :=
      if [1, 2, 4, 8].contains size then
        (ofLetters steps after).map ({ kind := .number base isSigned, size } :: ·)
      else none
    match c with
    | 'c' => (ofLetters steps rest).map ({ kind := .char } :: ·)
    | 'a' => (ofLetters steps rest).map ({ kind := .name } :: ·)
    | 'x' => number 16 false
    | 'o' => number 8 false
    | 'u' => number 10 false
    | 'd' => number 10 true
    | 'z' => ofLetters steps rest
    | _ => none

def characterNames : List String :=
  ["nul", "soh", "stx", "etx", "eot", "enq", "ack", "bel", "bs", "ht", "nl", "vt", "ff", "cr",
   "so", "si", "dle", "dc1", "dc2", "dc3", "dc4", "nak", "syn", "etb", "can", "em", "sub", "esc",
   "fs", "gs", "rs", "us", "sp"]

/-- The text of an item, of which the first byte counts least. -/
def text (t : DumpType) (bytes : Octets) : Octets :=
  let byte := (bytes.headD '\x00').toNat
  match t.kind with
  | .name =>
    let n := byte % 128
    if n = 127 then "del".toList
    else ((characterNames[n]?).map String.toList).getD [Char.ofNat n]
  | .char =>
    match byte with
    | 0 => ['\\', '0']
    | 7 => ['\\', 'a']
    | 8 => ['\\', 'b']
    | 9 => ['\\', 't']
    | 10 => ['\\', 'n']
    | 11 => ['\\', 'v']
    | 12 => ['\\', 'f']
    | 13 => ['\\', 'r']
    | n =>
      if 32 ≤ n && n < 127 then [Char.ofNat n]
      else
        let digits := Nat.toDigits 8 n
        List.replicate (3 - digits.length) '0' ++ digits
  | .number base isSigned =>
    let n := bytes.foldr (fun c n => n * 256 + c.toNat) 0
    let bound := Nat.pow 256 t.size
    if isSigned then (if bound ≤ 2 * n then '-' :: (toString (bound - n)).toList
      else (toString n).toList)
    else
      let digits := Nat.toDigits base n
      if base = 10 then digits else List.replicate (t.width - digits.length) '0' ++ digits

/-- The items of a type for the bytes of a line, widened to a common width. -/
def line (t : DumpType) (lineBytes lineWidth : Nat) (bytes : Octets) : Octets :=
  let fields := lineBytes / t.size
  let gap := lineWidth - fields * (t.width + 1)
  let count := (bytes.length + t.size - 1) / t.size
  (List.range count).flatMap fun i =>
    let extra := gap * (fields - i) / fields - gap * (fields - i - 1) / fields
    let text := t.text ((bytes.drop (i * t.size)).take t.size)
    ' ' :: List.replicate (t.width + extra - text.length) ' ' ++ text

end DumpType

/-- The place of a line in the base that is asked for, or nothing. -/
def dumpPlace (base : Octets) (n : Nat) : Octets :=
  let padded (width : Nat) (digits : Octets) := List.replicate (width - digits.length) '0' ++ digits
  match base with
  | ['n'] => []
  | ['d'] => padded 7 (Nat.toDigits 10 n)
  | ['x'] => padded 6 (Nat.toDigits 16 n)
  | _ => padded 7 (Nat.toDigits 8 n)

/-- The lines of a dump from a place on. A line like the one before is left out. Each step makes a
line. -/
def dumpLines (types : List DumpType) (base : Octets) (lineBytes : Nat) (showsAll : Bool) :
    Nat → Nat → Option Octets → Bool → Octets → List Octets
  | 0, _, _, _, _ => []
  | steps + 1, place, before?, isLeft, bytes =>
    let here := bytes.take lineBytes
    let rest := bytes.drop lineBytes
    if here.isEmpty then (if base = ['n'] then [] else [dumpPlace base place])
    else
      let isSame := !showsAll && before? == some here
      let lineWidth := types.foldl (fun n t => max n (lineBytes / t.size * (t.width + 1))) 0
      let lines := types.zipIdx.map fun (t, i) =>
        let place := dumpPlace base place
        (if i = 0 then place else place.map fun _ => ' ') ++ t.line lineBytes lineWidth here
      let shown := if !isSame then lines else if isLeft then [] else [['*']]
      shown
        ++ dumpLines types base lineBytes showsAll steps (place + here.length) (some here) isSame
        rest

def od (arguments : List Octets) : Act Nat :=
  let table : OptionTable :=
    { utility := "od", letters := "abcdohilsvx", valued := "AjNtwS"
      names := [("address-radix", 'A'), ("skip-bytes", 'j'), ("read-bytes", 'N'), ("format", 't'),
        ("output-duplicates", 'v'), ("width", 'w')] }
  table.run arguments fun a => do
    let asked : List Octets := a.options.filterMap fun (letter, value) =>
      match letter with
      | 'a' => some ['a']
      | 'b' => some "o1".toList
      | 'c' => some ['c']
      | 'd' => some "u2".toList
      | 'o' => some "o2".toList
      | 'h' | 'x' => some "x2".toList
      | 'i' => some "d4".toList
      | 's' => some "d2".toList
      | 'l' => some "d8".toList
      | 't' => some value
      | _ => none
    let texts := if asked.isEmpty then ["o2".toList] else asked
    match texts.find? fun text => (DumpType.ofLetters (text.length + 1) text).isNone with
    | some text => do
      Act.warn ("od: invalid character '" ++ String.ofList (text.take 1) ++ "' in type string "
        ++ quotedPath text)
      return 1
    | none =>
      let types := texts.flatMap fun text => (DumpType.ofLetters (text.length + 1) text).getD []
      let mut content : Octets := []
      let mut status := 0
      for path in if a.operands.isEmpty then [['-']] else a.operands do
        match ← Act.readOperand path with
        | .ok more => content := content ++ more
        | .error e =>
          reportPlain "od" path e
          status := 1
      let number (letter : Char) (default : Nat) : Nat :=
        ((a.value? letter).bind sizedNumber?).getD default
      let skipped := number 'j' 0
      let bytes := (content.drop skipped).take (number 'N' content.length)
      let lineBytes := max 1 (number 'w' 16)
      let base := (a.value? 'A').getD ['o']
      for line in dumpLines types base lineBytes (a.has 'v') (bytes.length + 1) skipped none false
          bytes do
        Act.printLine line
      return status

/-! ### Comparisons -/

/-- The first place at which two texts differ, with its line, when so many bytes and lines stand
before them; the flag tells whether one of them has ended there. -/
def firstDifference : Nat → Nat → Octets → Octets → Option (Nat × Nat × Bool)
  | _, _, [], [] => none
  | place, line, a :: as, b :: bs =>
    if a = b then firstDifference (place + 1) (if a = '\n' then line + 1 else line) as bs
    else some (place, line, false)
  | place, line, _, _ => some (place, line, true)

def cmp (arguments : List Octets) : Act Nat :=
  let table : OptionTable :=
    { utility := "cmp", letters := "bls", valued := "in", status := 2
      names := [("quiet", 's'), ("silent", 's'), ("bytes", 'n'), ("verbose", 'l')] }
  let refuse (text : String) : Act Nat := do
    Act.warn ("cmp: " ++ text)
    Act.warn "cmp: Try 'cmp --help' for more information."
    return 2
  table.run arguments fun a => do
    match a.operands with
    | [] => refuse "missing operand after 'cmp'"
    | first :: rest => do
      let second := rest.headD ['-']
      match ← readInputs [first, second] with
      | .error (path, e) => do
        reportPlain "cmp" path e
        return 2
      | .ok contents =>
        let limit := ((a.value? 'n').bind sizedNumber?)
        let cut (text : Octets) := (limit.map text.take).getD text
        let x := cut (contents.getD 0 [])
        let y := cut (contents.getD 1 [])
        match firstDifference 0 1 x y with
        | none => return 0
        | some (place, line, isEnd) => do
          if a.has 's' then return 1
          if isEnd then
            let path := if x.length < y.length then first else second
            let ending := if place = 0 then " which is empty"
              else
                " after byte " ++ toString place ++ ", "
                  ++ (if x[place - 1]? == some '\n' then "line " ++ toString (line - 1)
                    else "in line " ++ toString line)
            Act.warn ("cmp: EOF on " ++ Octets.text path ++ ending)
          else
            Act.printLine (first ++ ' ' :: second
              ++ octets (" differ: char " ++ toString (place + 1) ++ ", line " ++ toString line))
          return 1

/-- The lengths of the longest common subsequences of a list with the ends of another one, from the
whole to the empty end, given those for the rest of the list. -/
def commonRow (line : Octets) : List Octets → List Nat → List Nat
  | [], _ => [0]
  | other :: rest, below =>
    let row := commonRow line rest (below.drop 1)
    let best := if line = other then (below.drop 1).headD 0 + 1
      else max (below.headD 0) (row.headD 0)
    best :: row

/-- For each end of the first list the lengths of its longest common subsequences with the ends of
the second. -/
def commonTable (second : List Octets) : List Octets → List (List Nat)
  | [] => [List.replicate (second.length + 1) 0]
  | line :: rest =>
    let table := commonTable second rest
    commonRow line second (table.headD []) :: table

/-- A stretch of lines that two texts do not share: where it begins in both, and its lines. -/
structure Change where
  first : Nat
  second : Nat
  removed : List Octets := []
  added : List Octets := []

/-- The changes between two texts from given places on, along the table of common lengths. Each step
passes a line. -/
def changesFrom (table : List (List Nat)) : Nat → Nat → Nat → Option Change → List Octets →
    List Octets → List Change
  | 0, _, _, open?, _, _ => open?.toList
  | steps + 1, i, j, open?, first, second =>
    let here := open?.getD { first := i, second := j }
    let length (i j : Nat) : Nat := (table.getD i []).getD j 0
    let remove (a : Octets) (as : List Octets) : List Change :=
      let here := { here with removed := here.removed ++ [a] }
      changesFrom table steps (i + 1) j (some here) as second
    let add (b : Octets) (bs : List Octets) : List Change :=
      changesFrom table steps i (j + 1) (some { here with added := here.added ++ [b] }) first bs
    match first, second with
    | [], [] => open?.toList
    | a :: as, [] => remove a as
    | [], b :: bs => add b bs
    | a :: as, b :: bs =>
      if a = b then open?.toList ++ changesFrom table steps (i + 1) (j + 1) none as bs
      else if length i (j + 1) ≤ length (i + 1) j then remove a as
      else add b bs

def Change.lines (c : Change) : List Octets :=
  let range (before count : Nat) : String :=
    if count = 0 then toString before
    else if count = 1 then toString (before + 1)
    else toString (before + 1) ++ "," ++ toString (before + count)
  let letter := if c.removed.isEmpty then "a" else if c.added.isEmpty then "d" else "c"
  octets (range c.first c.removed.length ++ letter ++ range c.second c.added.length)
    :: c.removed.map (['<', ' '] ++ ·)
    ++ (if letter = "c" then [['-', '-', '-']] else []) ++ c.added.map (['>', ' '] ++ ·)

/-- The lines of a text, of which one without a line feed says so. -/
def markedLines (text : Octets) : List Octets :=
  let lines := linesOf text
  if text.isEmpty || text.getLast? == some '\n' then lines
  else lines.dropLast ++ [lines.getLastD [] ++ "\n\\ No newline at end of file".toList]

def diff (arguments : List Octets) : Act Nat :=
  let table : OptionTable :=
    { utility := "diff", letters := "qsbwiraNB", valued := "x", status := 2
      names := [("brief", 'q'), ("report-identical-files", 's')] }
  let refuse (text : String) : Act Nat := do
    Act.warn ("diff: " ++ text)
    Act.warn "diff: Try 'diff --help' for more information."
    return 2
  table.run arguments fun a => do
    match a.operands with
    | [] => refuse "missing operand after 'diff'"
    | [first] => refuse ("missing operand after " ++ quotedPath first)
    | _ :: _ :: third :: _ => refuse ("extra operand " ++ quotedPath third)
    | [first, second] => do
      let s ← get
      let isDirectory (path : Octets) : Bool :=
        (s.tree.find s.current (Octets.text path)).toOption == some .directory
      let within (directory path : Octets) : Octets :=
        directory ++ '/' :: (path.reverse.takeWhile (· != '/')).reverse
      let (first, second) :=
        if isDirectory first && !isDirectory second then (within first second, second)
        else if isDirectory second && !isDirectory first then (first, within second first)
        else (first, second)
      match ← readInputs [first, second] with
      | .error (path, e) => do
        reportPlain "diff" path e
        return 2
      | .ok contents =>
        let x := contents.getD 0 []
        let y := contents.getD 1 []
        let names := first ++ octets " and " ++ second
        if x = y then do
          if a.has 's' then Act.printLine (octets "Files " ++ names ++ octets " are identical")
          return 0
        else if a.has 'q' then do
          Act.printLine (octets "Files " ++ names ++ octets " differ")
          return 1
        else do
          let xs := markedLines x
          let ys := markedLines y
          let steps := xs.length + ys.length + 1
          for change in changesFrom (commonTable ys xs) steps 0 0 none xs ys do
            for line in change.lines do
              Act.printLine line
          return 1

/-! ### Copies -/

def dd (arguments : List Octets) : Act Nat := do
  let values := arguments.map fun a =>
    let name := Text.beforeFirst '=' a
    (String.ofList name, a.drop (name.length + 1))
  let known := ["if", "of", "bs", "ibs", "obs", "count", "skip", "seek", "conv", "status", "iflag",
    "oflag"]
  match arguments.find? fun a => !known.contains (String.ofList (Text.beforeFirst '=' a)) with
  | some a => reportUsage "dd" ("unrecognized operand " ++ quotedPath a)
  | none =>
    let number (name : String) (default : Nat) : Nat :=
      ((values.lookup name).bind sizedNumber?).getD default
    let size := max 1 (number "bs" (number "ibs" 512))
    let source := (values.lookup "if").getD ['-']
    let fail (path : Octets) (e : OsError) : Act Nat := do
      Act.warn ("dd: failed to open " ++ quotedPath path ++ ": " ++ e.reason)
      return 1
    match ← Act.readOperand source with
    | .error e => fail source e
    | .ok content => do
      let limit := (values.lookup "count").map fun _ => number "count" 0 * size
      let isEndless := ["/dev/zero", "/dev/full"].contains (String.ofList source)
      let content :=
        if isEndless then List.replicate (limit.getD content.length) '\x00'
        else
          let rest := content.drop (number "skip" 0 * size)
          (limit.map rest.take).getD rest
      let done ← match values.lookup "of" with
        | none => do
          Act.print content
          pure none
        | some path => do
          let old := match ← Act.readOperand path with
            | .ok old => old
            | .error _ => []
          let place := number "seek" 0 * size
          let before := old.take place ++ List.replicate (place - old.length) '\x00'
          let keeps := (values.lookup "conv") == some "notrunc".toList
          let after := if keeps then old.drop (place + content.length) else []
          match ← Act.writeFile path (before ++ content ++ after) false with
          | none => pure none
          | some e => pure (some (path, e))
      match done with
      | some (path, e) => fail path e
      | none => do
        let records := toString (content.length / size) ++ "+"
          ++ (if content.length % size = 0 then "0" else "1")
        let status := ((values.lookup "status").map String.ofList).getD ""
        if status != "none" then
          Act.warn (records ++ " records in")
          Act.warn (records ++ " records out")
          if status != "noxfer" then
            Act.warn (toString content.length ++ " bytes copied, 0.0001 s, 1.0 MB/s")
        return 0

/-! ### Encodings -/

def base64Digits : Octets :=
  "ABCDEFGHIJKLMNOPQRSTUVWXYZabcdefghijklmnopqrstuvwxyz0123456789+/".toList

def base64Encoded : Octets → Octets
  | [] => []
  | [a] =>
    let n := a.toNat * 16
    [digit (n / 64), digit (n % 64), '=', '=']
  | [a, b] =>
    let n := (a.toNat * 256 + b.toNat) * 4
    [digit (n / 4096), digit (n / 64 % 64), digit (n % 64), '=']
  | a :: b :: c :: rest =>
    let n := (a.toNat * 256 + b.toNat) * 256 + c.toNat
    digit (n / 262144) :: digit (n / 4096 % 64) :: digit (n / 64 % 64) :: digit (n % 64)
      :: base64Encoded rest
where
  /-- The digit of a number below 64. -/
  digit (n : Nat) : Char := base64Digits.getD n '='

/-- The octets that a text in base 64 stands for, and whether it is well formed. -/
def base64Decoded : Octets → Octets × Bool
  | [] => ([], true)
  | a :: b :: c :: d :: rest =>
    let value (c : Char) : Nat := base64Digits.idxOf c
    let n := ((value a * 64 + value b) * 64 + value c % 64) * 64 + value d % 64
    let bytes := [Char.ofNat (n / 65536 % 256), Char.ofNat (n / 256 % 256), Char.ofNat (n % 256)]
    if value a = 64 || value b = 64 then ([], false)
    else if c = '=' then (bytes.take 1, d == '=' && rest.isEmpty)
    else if value c = 64 then (bytes.take 1, false)
    else if d = '=' then (bytes.take 2, rest.isEmpty)
    else if value d = 64 then (bytes.take 2, false)
    else
      let (more, isWell) := base64Decoded rest
      (bytes ++ more, isWell)
  | _ => ([], false)

/-- The text in lines of a width. Each step makes a line. -/
def inLines (width : Nat) : Nat → Octets → List Octets
  | 0, _ | _, [] => []
  | steps + 1, cs => cs.take width :: inLines width steps (cs.drop width)

def base64 (arguments : List Octets) : Act Nat :=
  let table : OptionTable :=
    { utility := "base64", letters := "di", valued := "w"
      names := [("decode", 'd'), ("wrap", 'w'), ("ignore-garbage", 'i')] }
  table.run arguments fun a => do
    let path := a.operands.headD ['-']
    match ← Act.readOperand path with
    | .error e => do
      reportPlain "base64" path e
      return 1
    | .ok content =>
      if a.has 'd' then do
        let keeps (c : Char) : Bool :=
          c != '\n' && (!a.has 'i' || c == '=' || base64Digits.contains c)
        let (bytes, isWell) := base64Decoded (content.filter keeps)
        Act.print bytes
        if !isWell then Act.warn "base64: invalid input"
        return if isWell then 0 else 1
      else do
        let text := base64Encoded content
        let width := numberOr 76 ((a.value? 'w').getD [])
        Act.print (if width = 0 then text else textOf (inLines width text.length text))
        return 0

def sha256sum (arguments : List Octets) : Act Nat :=
  let table : OptionTable :=
    { utility := "sha256sum", letters := "bctqz", names := [("check", 'c'), ("quiet", 'q')] }
  table.run arguments fun a =>
    forInputs a.operands (reportPlain "sha256sum") fun path content => do
      let digest (text : Octets) : Octets := (Sha256.hexDigest (Octets.toBytes text)).toList
      if a.has 'c' then
        let mut wrong := 0
        for line in linesOf content do
          let name := line.drop 66
          match ← Act.readOperand name with
          | .ok text =>
            let isSame := digest text == line.take 64
            if !(isSame && a.has 'q') then
              Act.printLine (name ++ octets (if isSame then ": OK" else ": FAILED"))
            if !isSame then wrong := wrong + 1
          | .error e =>
            reportPlain "sha256sum" name e
            Act.printLine (name ++ octets ": FAILED open or read")
            wrong := wrong + 1
        return if wrong = 0 then 0 else 1
      else
        Act.printLine (digest content ++ [' ', ' '] ++ path)
        return 0

end ZoneGuard.Shell
