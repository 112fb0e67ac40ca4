import ZoneGuard.Shell.Utility.Options

/-!
# Utilities on lines

The utilities that read texts and print some or all of their lines, in the same form or with numbers
and other lines beside them, and the one that counts.
-/

namespace ZoneGuard.Shell

open Files (OsError)

/-- The lines of a text, which end with the given character. A last line without one counts. -/
def linesBy (ending : Char) (text : Octets) : List Octets :=
  let parts := Text.splitAtEach ending text
  if parts.getLast? == some [] then parts.dropLast else parts

/-- The lines of a text. A last line without a line feed counts. -/
def linesOf (text : Octets) : List Octets := linesBy '\n' text

def textOf (lines : List Octets) : Octets := lines.flatMap fun line => line ++ ['\n']

/-- The lines with a change made to each, where a last line without a line feed stays so. -/
def mapLines (f : Octets → Octets) (text : Octets) : Octets :=
  let shown := textOf ((linesOf text).map f)
  if text.getLast? == some '\n' then shown else shown.dropLast

def numberOr (default : Nat) (text : Octets) : Nat :=
  if text.isEmpty || !text.all Char.isDigit then default
  else digitsValue 10 text

def rightAligned (width n : Nat) : Octets :=
  let digits := (toString n).toList
  List.replicate (width - digits.length) ' ' ++ digits

/-- Reads the operands one after the other, or the standard input if there are none. What cannot be
read is reported in the words of the utility. -/
def forInputs (operands : List Octets) (report : Octets → OsError → Act Unit)
    (act : Octets → Octets → Act Nat) : Act Nat :=
  forOperands (if operands.isEmpty then [['-']] else operands) fun path => do
    match ← Act.readOperand path with
    | .ok content => act path content
    | .error e => do
      report path e
      return 1

/-- Reports that a path cannot be opened, or that what it leads to cannot be read. -/
def reportOpening (utility : String) (path : Octets) (e : OsError) : Act Unit :=
  match e with
  | .isADirectory =>
    Act.warn (utility ++ ": error reading " ++ quotedPath path ++ ": " ++ e.reason)
  | _ =>
    Act.warn (utility ++ ": cannot open " ++ quotedPath path ++ " for reading: " ++ e.reason)

/-! ### Whole texts -/

/-- The octet in characters that can be seen; line feeds are left. -/
def visibleOctet (showsTabs : Bool) (c : Char) : Octets :=
  let low (n : Nat) : Octets :=
    if n < 32 then ['^', Char.ofNat (n + 64)] else if n = 127 then ['^', '?'] else [Char.ofNat n]
  let n := c.toNat
  if c = '\n' then [c]
  else if c = '\t' then (if showsTabs then ['^', 'I'] else [c])
  else if n < 128 then low n
  else ['M', '-'] ++ low (n - 128)

/-- The lines without empty ones behind an empty one. -/
def squeezedLines : Bool → List Octets → List Octets
  | _, [] => []
  | isBehindEmpty, line :: rest =>
    if line.isEmpty && isBehindEmpty then squeezedLines true rest
    else line :: squeezedLines line.isEmpty rest

/-- The lines with their numbers, where empty ones may have none. -/
def numberedLines (countsEmpty : Bool) : Nat → List Octets → List Octets
  | _, [] => []
  | n, line :: rest =>
    if line.isEmpty && !countsEmpty then line :: numberedLines countsEmpty n rest
    else (rightAligned 6 n ++ '\t' :: line) :: numberedLines countsEmpty (n + 1) rest

def shownText (a : Arguments) (text : Octets) : Octets :=
  let isEnded := text.getLast? == some '\n'
  let lines := linesOf text
  let lines := if a.has 's' then squeezedLines false lines else lines
  let lines := if a.hasAny "veAt"
    then lines.map fun line => line.flatMap (visibleOctet (a.hasAny "AtT"))
    else if a.has 'T' then lines.map fun line =>
      line.flatMap fun c => if c = '\t' then ['^', 'I'] else [c]
    else lines
  let ending : Octets := if a.hasAny "AeE" then ['$'] else []
  let last := lines.length - 1
  let lines := lines.zipIdx.map fun (line, i) =>
    if i = last && !isEnded then line else line ++ ending
  let lines := if a.has 'b' then numberedLines false 1 lines
    else if a.has 'n' then numberedLines true 1 lines
    else lines
  let shown := textOf lines
  if isEnded then shown else shown.dropLast

def cat (arguments : List Octets) : Act Nat :=
  let table : OptionTable :=
    { utility := "cat", letters := "AbeEnstTuv"
      names := [("number", 'n'), ("number-nonblank", 'b'), ("squeeze-blank", 's'),
        ("show-all", 'A'), ("show-ends", 'E'), ("show-tabs", 'T'), ("show-nonprinting", 'v')] }
  table.run arguments fun a => do
    let isPlain := !a.hasAny "AbeEnstTv"
    let mut texts : List Octets := []
    let mut status := 0
    for path in if a.operands.isEmpty then [['-']] else a.operands do
      match ← Act.readOperand path with
      | .ok content =>
        if isPlain then Act.print content else texts := texts ++ [content]
      | .error e =>
        reportPlain "cat" path e
        status := 1
    if !isPlain then Act.print (shownText a texts.flatten)
    return status

def tac (arguments : List Octets) : Act Nat :=
  let table : OptionTable := { utility := "tac", letters := "br", valued := "s" }
  table.run arguments fun a =>
    let report (path : Octets) (e : OsError) : Act Unit :=
      match e with
      | .isADirectory => Act.warn ("tac: " ++ Octets.text path ++ ": read error: " ++ e.reason)
      | e => Act.warn ("tac: failed to open " ++ quotedPath path ++ " for reading: " ++ e.reason)
    forInputs a.operands report fun _ content => do
      let parts := Text.splitAtEach '\n' content
      let lines := parts.dropLast.map (· ++ ['\n'])
      Act.print ((lines ++ (parts.getLast?.filter (!·.isEmpty)).toList).reverse.flatten)
      return 0

def rev (arguments : List Octets) : Act Nat :=
  forInputs (arguments.filter (· != ['-', '-']))
    (fun path e => Act.warn ("rev: cannot open " ++ Octets.text path ++ ": " ++ e.reason))
    fun _ content => do
      Act.print (mapLines List.reverse content)
      return 0

def tee (arguments : List Octets) : Act Nat :=
  let table : OptionTable :=
    { utility := "tee", letters := "aip", names := [("append", 'a')] }
  table.run arguments fun a => do
    let content ← Act.readAll 0
    Act.print content
    forOperands a.operands fun path => do
      match ← Act.writeFile path content (a.has 'a') with
      | none => return 0
      | some e => do
        reportPlain "tee" path e
        return 1

/-! ### Beginnings and ends -/

/-- The number that a text with a unit behind it stands for. -/
def sizedNumber? (text : Octets) : Option Nat :=
  let digits := text.takeWhile Char.isDigit
  let unit? : Option Nat := match String.ofList (text.drop digits.length) with
    | "" => some 1
    | "b" => some 512
    | "kB" => some 1000
    | "k" | "K" | "KiB" => some 1024
    | "MB" => some 1000000
    | "m" | "M" | "MiB" => some 1048576
    | "G" | "GiB" => some 1073741824
    | _ => none
  if digits.isEmpty then none else unit?.map (digitsValue 10 digits * ·)

structure Portion where
  count : Nat := 10
  ofBytes : Bool := false
  /-- The sign written before the count. -/
  sign? : Option Char := none

/-- The portion that a count with a sign or without one asks for. -/
def portionOf? (ofBytes : Bool) (text : Octets) : Option Portion :=
  let (sign?, digits) := match text with
    | '-' :: rest => (some '-', rest)
    | '+' :: rest => (some '+', rest)
    | rest => (none, rest)
  (sizedNumber? digits).map fun count => { count, ofBytes, sign? }

/-- The pieces of a text that portions count: bytes, or lines with their line feeds. -/
def portionUnits (p : Portion) (text : Octets) : List Octets :=
  if p.ofBytes then text.map ([·])
  else
    let parts := Text.splitAtEach '\n' text
    let whole := parts.dropLast.map (· ++ ['\n'])
    match parts.getLast? with
    | none | some [] => whole
    | some last => whole ++ [last]

/-- The beginning of a text. A minus before the count leaves so many out at the end. -/
def beginningOf (p : Portion) (text : Octets) : Octets :=
  let units := portionUnits p text
  (units.take (if p.sign? = some '-' then units.length - p.count else p.count)).flatten

/-- The end of a text. A plus before the count gives the first to take. -/
def endOf (p : Portion) (text : Octets) : Octets :=
  let units := portionUnits p text
  (units.drop (if p.sign? = some '+' then p.count - 1 else units.length - p.count)).flatten

/-- The arguments with a count that stands by itself as an option's value. -/
def withCountOption (utility : String) : List Octets → List Octets
  | ('-' :: d :: ds) :: rest =>
    if d.isDigit then
      let digits := (d :: ds).takeWhile Char.isDigit
      match (d :: ds).drop digits.length with
      | 'c' :: letters => ('-' :: 'c' :: digits) :: ('-' :: letters) :: rest
      | [] => ('-' :: 'n' :: digits) :: rest
      | letters => ('-' :: 'n' :: digits) :: ('-' :: letters) :: rest
    else ('-' :: d :: ds) :: rest
  | ('+' :: d :: ds) :: rest =>
    if utility = "tail" && d.isDigit then ('-' :: 'n' :: '+' :: d :: ds) :: rest
    else ('+' :: d :: ds) :: rest
  | arguments => arguments

def printPortions (utility : String) (part : Portion → Octets → Octets)
    (arguments : List Octets) : Act Nat :=
  let table : OptionTable :=
    { utility, letters := if utility = "head" then "qvz" else "qvzfFr"
      valued := if utility = "head" then "nc" else "ncs"
      names := [("lines", 'n'), ("bytes", 'c'), ("quiet", 'q'), ("silent", 'q'), ("verbose", 'v')] }
  table.run (withCountOption utility arguments) fun a => do
    let asked? := (a.options.filter fun (c, _) => c == 'n' || c == 'c').getLast?
    let portion? := match asked? with
      | none => some ({} : Portion)
      | some (c, text) => portionOf? (c == 'c') text
    match portion? with
    | none => do
      let (c, text) := asked?.getD ('n', [])
      let units := if c == 'c' then "bytes" else "lines"
      Act.warn (utility ++ ": invalid number of " ++ units ++ ": " ++ quotedPath text)
      return 1
    | some p => do
      let isTitled := (a.operands.length > 1 || a.has 'v') && !a.has 'q'
      let mut status := 0
      let mut isFirst := true
      for path in if a.operands.isEmpty then [['-']] else a.operands do
        let title : Act Unit := do
          if isTitled then
            let gap := if isFirst then [] else ['\n']
            let name := if path = ['-'] then "standard input".toList else path
            Act.print (gap ++ octets "==> " ++ name ++ octets " <==\n")
        match ← Act.readOperand path with
        | .ok content =>
          title
          isFirst := false
          let content := if path = "/dev/zero".toList && p.ofBytes
            then List.replicate p.count '\x00' else content
          Act.print (part p content)
        | .error e =>
          if e = .isADirectory then
            title
            isFirst := false
          reportOpening utility path e
          status := 1
      return status

/-! ### Counting -/

/-- The lines, words and bytes of a text, and the length of its longest line. -/
structure Counts where
  lines : Nat := 0
  words : Nat := 0
  bytes : Nat := 0
  widest : Nat := 0

/-- The number of words that begin in a text, when a word is open before it or not. -/
def countWords : Bool → Octets → Nat
  | _, [] => 0
  | isOpen, c :: cs =>
    if " \t\n\r\x0b\x0c".toList.contains c then countWords false cs
    else (if isOpen then 0 else 1) + countWords true cs

def Counts.of (text : Octets) : Counts where
  lines := text.count '\n'
  words := countWords false text
  bytes := text.length
  widest := (linesOf text).foldl (fun n line => max n line.length) 0

def Counts.plus (a b : Counts) : Counts where
  lines := a.lines + b.lines
  words := a.words + b.words
  bytes := a.bytes + b.bytes
  widest := max a.widest b.widest

/-- The counts that are asked for, in their fixed order. -/
def Counts.asked (c : Counts) (a : Arguments) : List Nat :=
  [("l", c.lines), ("w", c.words), ("m", c.bytes), ("c", c.bytes), ("L", c.widest)].filterMap
    fun (letter, n) =>
      if a.hasAny letter || (a.options.isEmpty && "lwc".toList.contains (letter.toList.headD ' '))
      then some n else none

def countLine (width : Nat) (numbers : List Nat) (path : Octets) : Octets :=
  [' '].intercalate (numbers.map (rightAligned width) ++ if path.isEmpty then [] else [path])

def fileSizeAt? (descriptor : Nat) : Act (Option Nat) := do
  let s ← get
  match ← Act.channel? descriptor with
  | some (_, .file number _ _) => return some (s.tree.file number).content.length
  | _ => return none

def wc (arguments : List Octets) : Act Nat :=
  let table : OptionTable :=
    { utility := "wc", letters := "clLmw"
      names := [("lines", 'l'), ("words", 'w'), ("bytes", 'c'), ("chars", 'm'),
        ("max-line-length", 'L')] }
  table.run arguments fun a => do
    let paths := if a.operands.isEmpty then [[]] else a.operands
    let mut size := 0
    let mut isRegular := true
    for path in paths do
      if path.isEmpty || path = ['-'] then
        match ← fileSizeAt? 0 with
        | some n => size := size + n
        | none => isRegular := false
      else
        let s ← get
        match s.tree.find s.current (Octets.text path) with
        | .ok (.file number) => size := size + (s.tree.file number).content.length
        | .ok _ => isRegular := false
        | .error _ => pure ()
    let isSingle := (Counts.asked {} a).length == 1 && paths.length == 1
    let width := if isSingle then 1
      else if isRegular then (toString size).length
      else max 7 (toString size).length
    let mut total : Counts := {}
    let mut status := 0
    for path in paths do
      match ← Act.readOperand (if path.isEmpty then ['-'] else path) with
      | .ok content =>
        let counts := Counts.of content
        total := total.plus counts
        Act.printLine (countLine width (counts.asked a) path)
      | .error e =>
        reportPlain "wc" path e
        if e = .isADirectory then Act.printLine (countLine width (Counts.asked {} a) path)
        status := 1
    if paths.length > 1 then
      Act.printLine (countLine width (total.asked a) "total".toList)
    return status

/-! ### Numbers and columns -/

def nl (arguments : List Octets) : Act Nat :=
  let table : OptionTable :=
    { utility := "nl", letters := "p", valued := "bdfhilnsvw" }
  table.run arguments fun a =>
    forInputs a.operands (reportPlain "nl") fun _ content => do
      let width := numberOr 6 ((a.value? 'w').getD [])
      let step := numberOr 1 ((a.value? 'i').getD [])
      let separator := (a.value? 's').getD ['\t']
      let countsEmpty := a.value? 'b' == some ['a']
      let mut n := numberOr 1 ((a.value? 'v').getD [])
      for line in linesOf content do
        if a.value? 'b' == some ['n'] || line.isEmpty && !countsEmpty then
          Act.printLine (List.replicate (width + separator.length) ' ' ++ line)
        else
          let digits := (toString n).toList
          let number := match (a.value? 'n').map String.ofList with
            | some "ln" => digits ++ List.replicate (width - digits.length) ' '
            | some "rz" => List.replicate (width - digits.length) '0' ++ digits
            | _ => rightAligned width n
          Act.printLine (number ++ separator ++ line)
          n := n + step
      return 0

def joinedInTurn (separators : List Octets) : Nat → List Octets → Octets
  | _, [] => []
  | _, [item] => item
  | i, item :: rest =>
    item ++ separators.getD (i % max 1 separators.length) [] ++ joinedInTurn separators (i + 1) rest

def pasteSeparators : Octets → List Octets
  | [] => []
  | '\\' :: c :: rest =>
    let text : Octets := match c with
      | 'n' => ['\n']
      | 't' => ['\t']
      | '0' => []
      | c => [c]
    text :: pasteSeparators rest
  | c :: rest => [c] :: pasteSeparators rest

def paste (arguments : List Octets) : Act Nat :=
  let table : OptionTable :=
    { utility := "paste", letters := "sz", valued := "d"
      names := [("delimiters", 'd'), ("serial", 's')] }
  table.run arguments fun a => do
    let separators := pasteSeparators ((a.value? 'd').getD ['\t'])
    let paths := if a.operands.isEmpty then [['-']] else a.operands
    let mut columns : List (List Octets) := []
    let inputs := paths.filter (· == ['-'])
    let input ← if inputs.isEmpty then pure [] else Act.readAll 0
    let mut place := 0
    for path in paths do
      if path = ['-'] then
        let lines := linesOf input
        let isMine (i : Nat) : Bool := a.has 's' || i % inputs.length == place
        let mine := lines.zipIdx.filterMap fun (line, i) => if isMine i then some line else none
        columns := columns ++ [mine]
        place := place + 1
      else
        match ← Act.readOperand path with
        | .ok content => columns := columns ++ [linesOf content]
        | .error e =>
          reportPlain "paste" path e
          return 1
    if a.has 's' then
      for column in columns do
        Act.printLine (joinedInTurn separators 0 column)
    else
      let count := columns.foldl (fun n column => max n column.length) 0
      for i in List.range count do
        Act.printLine (joinedInTurn separators 0 (columns.map (·.getD i [])))
    return 0

/-- A line cut into parts of at most the given width, behind a blank if that is asked for. Each step
makes a part. -/
def foldedLine (width : Nat) (atBlanks : Bool) : Nat → Octets → List Octets
  | 0, line => [line]
  | steps + 1, line =>
    if line.length ≤ width then [line]
    else
      let part := line.take width
      let shorter := (part.reverse.dropWhile fun c => c != ' ' && c != '\t').reverse
      let part := if atBlanks && !shorter.isEmpty then shorter else part
      part :: foldedLine width atBlanks steps (line.drop part.length)

def fold (arguments : List Octets) : Act Nat :=
  let table : OptionTable :=
    { utility := "fold", letters := "bs", valued := "w"
      names := [("width", 'w'), ("spaces", 's'), ("bytes", 'b')] }
  table.run arguments fun a =>
    let width := max 1 (numberOr 80 ((a.value? 'w').getD []))
    forInputs a.operands (reportPlain "fold") fun _ content => do
      Act.print (mapLines (fun line =>
        ['\n'].intercalate (foldedLine width (a.has 's') line.length line)) content)
      return 0

def expandedLine (width : Nat) : Nat → Octets → Octets
  | _, [] => []
  | column, '\t' :: rest =>
    let gap := width - column % width
    List.replicate gap ' ' ++ expandedLine width (column + gap) rest
  | column, c :: rest => c :: expandedLine width (column + 1) rest

def expandTabs (arguments : List Octets) : Act Nat :=
  let table : OptionTable := { utility := "expand", letters := "i", valued := "t" }
  table.run arguments fun a =>
    let width := max 1 (numberOr 8 ((a.value? 't').getD []))
    forInputs a.operands (reportPlain "expand") fun _ content => do
      Act.print (mapLines (expandedLine width 0) content)
      return 0

def truncate (arguments : List Octets) : Act Nat :=
  let table : OptionTable :=
    { utility := "truncate", letters := "co", valued := "rs"
      names := [("size", 's'), ("no-create", 'c')] }
  table.run arguments fun a => do
    let read (text : Octets) : Option Char × Option Nat :=
      (text.head?, sizedNumber? (text.dropWhile (!·.isDigit)))
    match (a.value? 's').map read with
    | none => reportUsage "truncate" "you must specify either '--size' or '--reference'"
    | some (_, none) => do
      Act.warn ("truncate: Invalid number: " ++ quotedPath ((a.value? 's').getD []))
      return 1
    | some (sign?, some n) =>
      forOperands a.operands fun path => do
        let old := match ← Act.readOperand path with
          | .ok content => content
          | .error _ => []
        let size := match sign? with
          | some '+' => old.length + n
          | some '-' => old.length - n
          | _ => n
        let new := old.take size ++ List.replicate (size - old.length) '\x00'
        match ← Act.writeFile path new false with
        | none => return 0
        | some e => do
          reportPath "truncate" "cannot open" path e
          return 1

/-- The utility `yes`, as far as a pipe takes its output. -/
def yes (arguments : List Octets) : Act Nat := do
  let line := if arguments.isEmpty then ['y'] else [' '].intercalate arguments
  Act.print (textOf (List.replicate (65536 / (line.length + 1) + 1) line))
  return 0

end ZoneGuard.Shell
