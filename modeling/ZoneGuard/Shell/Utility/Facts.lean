import ZoneGuard.Shell.Utility.Running

/-!
# Facts about the surroundings

The utilities that tell who and where a script is: the names of the user and the system, the time,
and the paths of programs.
-/

namespace ZoneGuard.Shell

/-- A utility that prints a line and takes no operands. -/
def printFact (utility fact : String) (arguments : List Octets) : Act Nat :=
  let table : OptionTable := { utility }
  table.run arguments fun a => do
    match a.operands with
    | extra :: _ => reportUsage utility ("extra operand " ++ quotedPath extra)
    | [] => do
      Act.printLine (octets fact)
      return 0

def uname (arguments : List Octets) : Act Nat :=
  let table : OptionTable :=
    { utility := "uname", letters := "asnrvmpio"
      names := [("all", 'a'), ("kernel-name", 's'), ("machine", 'm'), ("operating-system", 'o')] }
  table.run arguments fun a => do
    match a.operands with
    | extra :: _ => reportUsage "uname" ("extra operand " ++ quotedPath extra)
    | [] => do
      let facts := [('s', "Linux"), ('n', "localhost"), ('r', "6.1.0"), ('v', "#1 SMP"),
        ('m', "x86_64"), ('o', "GNU/Linux")]
      let shown := facts.filter fun (letter, _) =>
        a.has letter || a.has 'a' || a.options.isEmpty && letter == 's'
      Act.printLine (octets (" ".intercalate (shown.map (·.2))))
      return 0

def identity (arguments : List Octets) : Act Nat :=
  let table : OptionTable :=
    { utility := "id", letters := "ugGnrz"
      names := [("user", 'u'), ("group", 'g'), ("groups", 'G'), ("name", 'n')] }
  table.run arguments fun a => do
    match a.operands.find? (· != "root".toList) with
    | some name => do
      Act.warn ("id: " ++ quotedPath name ++ ": no such user")
      return 1
    | none => do
      let text := if !a.hasAny "ugG" then "uid=0(root) gid=0(root) groups=0(root)"
        else if a.has 'n' then "root" else "0"
      Act.printLine (octets text)
      return 0

def which (arguments : List Octets) : Act Nat := do
  let names := arguments.filter fun a => a != "-a".toList
  if names.isEmpty then return 1
  forOperands names fun name => do
    let s ← get
    let directories := Octets.text ((s.bindings.lookup "PATH".toList).getD [])
    let paths := Files.searchPaths directories (Octets.text name)
    let found := paths.filter fun path =>
      (s.tree.execution? s.current Files.maxInterpreters path).isOk
    for path in if names.length < arguments.length then found else found.take 1 do
      Act.printLine (octets path)
    return if found.isEmpty then 1 else 0

/-! ### Time -/

/-- The seconds from the beginning of 1970 to the time at which clocks start here, which is the
beginning of 2024. -/
def startSeconds : Nat := 1704067200

structure Day where
  year : Nat
  month : Nat
  day : Nat

def Day.ofCount (days : Nat) : Day :=
  let z := days + 719468
  let era := z / 146097
  let inEra := z % 146097
  let yearOfEra := (inEra - inEra / 1460 + inEra / 36524 - inEra / 146096) / 365
  let inYear := inEra - (365 * yearOfEra + yearOfEra / 4 - yearOfEra / 100)
  let shifted := (5 * inYear + 2) / 153
  let month := if shifted < 10 then shifted + 3 else shifted - 9
  { year := yearOfEra + era * 400 + (if month ≤ 2 then 1 else 0), month
    day := inYear - (153 * shifted + 2) / 5 + 1 }

def zeroPadded (width n : Nat) : Octets :=
  let digits := (toString n).toList
  List.replicate (width - digits.length) '0' ++ digits

def timeText (time : Nat) : Octets → Octets
  | [] => []
  | '%' :: c :: rest =>
    let seconds := startSeconds + time / 1000000
    let days := seconds / 86400
    let day := Day.ofCount days
    let hour := seconds % 86400 / 3600
    let minute := seconds % 3600 / 60
    let second := seconds % 60
    let weekday := ["Thu", "Fri", "Sat", "Sun", "Mon", "Tue", "Wed"].getD (days % 7) ""
    let month := ["Jan", "Feb", "Mar", "Apr", "May", "Jun", "Jul", "Aug", "Sep", "Oct", "Nov",
      "Dec"].getD (day.month - 1) ""
    let clock := zeroPadded 2 hour ++ ':' :: zeroPadded 2 minute ++ ':' :: zeroPadded 2 second
    let shown : Octets := match c with
      | 's' => (toString seconds).toList
      | 'N' => zeroPadded 6 (time % 1000000) ++ "000".toList
      | 'Y' => zeroPadded 4 day.year
      | 'y' => zeroPadded 2 (day.year % 100)
      | 'm' => zeroPadded 2 day.month
      | 'd' => zeroPadded 2 day.day
      | 'H' => zeroPadded 2 hour
      | 'M' => zeroPadded 2 minute
      | 'S' => zeroPadded 2 second
      | 'T' => clock
      | 'F' => zeroPadded 4 day.year ++ '-' :: zeroPadded 2 day.month ++ '-' :: zeroPadded 2 day.day
      | 'a' => octets weekday
      | 'b' => octets month
      | 'Z' => "UTC".toList
      | 'z' => "+0000".toList
      | 'n' => ['\n']
      | 't' => ['\t']
      | '%' => ['%']
      | c => ['%', c]
    shown ++ timeText time rest
  | c :: rest => c :: timeText time rest

/-- The utility `date`, which only tells the time. -/
def date (arguments : List Octets) : Act Nat :=
  let table : OptionTable :=
    { utility := "date", letters := "uR", valued := "dIrs", names := [("utc", 'u'), ("date", 'd')] }
  table.run arguments fun a => do
    let s ← get
    match a.operands with
    | [] => do
      Act.printLine (timeText s.clock "%a %b %d %T %Z %Y".toList)
      return 0
    | ('+' :: format) :: _ => do
      Act.printLine (timeText s.clock format)
      return 0
    | operand :: _ => do
      Act.warn ("date: invalid date " ++ quotedPath operand)
      return 1

end ZoneGuard.Shell
