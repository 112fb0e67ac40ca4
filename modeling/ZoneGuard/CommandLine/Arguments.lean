import ZoneGuard.Numeric.Digit

/-!
# Arguments

What the arguments of the program ask for. Some options belong to the program as a whole and may
stand before or behind the name of a command, where the latter counts; the others belong to one
command.
-/

namespace ZoneGuard.CommandLine

inductive Format where
  | text
  | json
deriving DecidableEq, Repr

structure Options where
  format : Format := .text
  quiet : Bool := false
  config? : Option String := none
deriving DecidableEq, Repr

inductive Task where
  | compile (graph : String) (out? : Option String)
  | decode (file : String) (graph? : Option String)
  | fast (graph : String)
  | check (graph : String) (replay? : Option String) (timeout? : Option Nat)
  | serve (port? : Option Nat)
deriving DecidableEq, Repr

/-! ### Options -/

inductive Kind where
  /-- Nothing. -/
  | flag
  /-- A path that is not empty. -/
  | path
  | format
  | seconds
  | port
  /-- Nothing, and the rest of the arguments does not matter. -/
  | version
  | help
deriving DecidableEq, Repr

/-- The port that a text writes, which is read as a number with a sign: zero may be negative. -/
def readPort? (text : String) : Option Nat :=
  match text.toList with
  | '-' :: digits => if !digits.isEmpty && digits.all (· == '0') then some 0 else none
  | _ => readBounded? UInt16.size text

def Kind.admits (value : String) : Kind → Bool
  | .flag | .version | .help => value.isEmpty
  | .path => !value.isEmpty
  | .format => value == "text" || value == "json"
  | .seconds => (readBounded? UInt64.size value).isSome
  | .port => (readPort? value).isSome

def Kind.takesValue : Kind → Bool
  | .flag | .version | .help => false
  | .path | .format | .seconds | .port => true

/-- An option with its name, perhaps a letter, and what it is for. -/
structure Switch where
  name : String
  letter? : Option Char := none
  kind : Kind
  purpose : String
deriving DecidableEq, Repr

def outputOption : Switch where
  name := "output"
  kind := .format
  purpose := "Output format (text or json) [default: text] [possible values: text, json]"

def quietOption : Switch where
  name := "quiet"
  kind := .flag
  purpose := "Suppress non-essential output"

def configOption : Switch where
  name := "config"
  kind := .path
  purpose := "Path to a TOML config file (default: $ARCHCHECK_CONFIG)"

def helpOption : Switch where
  name := "help"
  letter? := some 'h'
  kind := .help
  purpose := "Print help"

def versionOption : Switch where
  name := "version"
  letter? := some 'V'
  kind := .version
  purpose := "Print version"

def leadingOptions : List Switch :=
  [outputOption, quietOption, configOption, helpOption, versionOption]

/-! ### Commands -/

/-- What a command works on, in the form in which its usage shows it. -/
structure Operand where
  form : String
  purpose : String
deriving DecidableEq, Repr

structure Subcommand where
  name : String
  purpose : String
  operand? : Option Operand := none
  /-- The options behind its name, in the order in which help lists them. -/
  options : List Switch := []
deriving DecidableEq, Repr

def compileCommand : Subcommand where
  name := "compile"
  purpose := "Compile a graph to the engine's specification language"
  operand? := some ⟨"<GRAPH>", "Path to the graph JSON file"⟩
  options :=
    [⟨"out", some 'o', .path, "Write the specification here instead of stdout"⟩, outputOption,
     quietOption, configOption, helpOption]

def decodeCommand : Subcommand where
  name := "decode"
  purpose := "Decode a recorded engine result"
  operand? := some ⟨"<FILE>", "Path to the engine's XML output"⟩
  options :=
    [⟨"graph", none, .path, "Graph the result belongs to; produces a full report"⟩, outputOption,
     quietOption, configOption, helpOption]

def fastCommand : Subcommand where
  name := "fast"
  purpose := "Evaluate only the in-process rules"
  operand? := some ⟨"<GRAPH>", "Path to the graph JSON file"⟩
  options := [outputOption, quietOption, configOption, helpOption]

def checkCommand : Subcommand where
  name := "check"
  purpose := "Run the full analysis: engine plus in-process rules"
  operand? := some ⟨"<GRAPH>", "Path to the graph JSON file"⟩
  options :=
    [outputOption,
     ⟨"replay", none, .path, "Use a recorded engine result instead of running the engine"⟩,
     quietOption, ⟨"timeout", none, .seconds, "Engine timeout in seconds"⟩, configOption,
     helpOption]

def serveCommand : Subcommand where
  name := "serve"
  purpose := "Start the HTTP analysis service"
  options :=
    [outputOption, ⟨"port", none, .port, "Port to listen on"⟩, quietOption, configOption,
     helpOption]

def helpCommand : Subcommand where
  name := "help"
  purpose := "Print this message or the help of the given subcommand(s)"
  operand? := some ⟨"[COMMAND]...", "Print help for the subcommand(s)"⟩

def subcommands : List Subcommand :=
  [compileCommand, decodeCommand, fastCommand, checkCommand, serveCommand, helpCommand]

def Subcommand.ofName? (name : String) : Option Subcommand :=
  subcommands.find? (·.name == name)

inductive Request where
  | version
  /-- Help on the program, or on one of its commands. -/
  | help (topic? : Option Subcommand)
  | run (options : Options) (task : Task)
deriving DecidableEq, Repr

/-! ### Collecting arguments -/

structure Given where
  options : List (String × String) := []
  operands : List String := []
  /-- The last option if its value is an argument of its own. The value is looked at when the next
  argument is. -/
  pending? : Option (Switch × String) := none

inductive Early where
  | misuse
  | version
  | help

/-- The given arguments with an option. Each option may be given once. -/
def Given.addOption (g : Given) (o : Switch) (value : String) : Except Early Given :=
  match o.kind with
  | .version => .error .version
  | .help => .error .help
  | kind =>
    if !kind.admits value || (g.options.lookup o.name).isSome then .error .misuse
    else .ok { g with options := g.options ++ [(o.name, value)] }

/-- The given arguments after a look at the value that is pending. -/
def Given.settled (g : Given) : Except Early Given :=
  match g.pending? with
  | none => .ok g
  | some (o, value) => { g with pending? := none }.addOption o value

def Given.addOperands (room : Nat) (operands : List String) (g : Given) : Except Early Given := do
  let g ← g.settled
  let operands := g.operands ++ operands
  if room < operands.length || operands.any (·.isEmpty) then .error .misuse
  else return { g with operands }

/-- The option that an argument names, and the value written in it. Behind the letter of an option
that takes no value nothing counts. -/
def optionOf? (options : List Switch) (argument : List Char) :
    Option (Switch × Option String) :=
  match argument with
  | '-' :: '-' :: text =>
    let name := text.takeWhile (· != '=')
    let value? := if name.length = text.length then none
      else some (String.ofList (text.drop (name.length + 1)))
    (options.find? (·.name.toList == name)).map (·, value?)
  | '-' :: letter :: text =>
    let value? := match text with
      | [] => none
      | '=' :: value => some (String.ofList value)
      | value => some (String.ofList value)
    (options.find? (·.letter? == some letter)).map fun o =>
      (o, if o.kind.takesValue then value? else none)
  | _ => none

def isOptionLike (argument : String) : Bool :=
  match argument.toList with
  | '-' :: _ :: _ => true
  | _ => false

/-- Reads arguments one after the other, so that of two faults, or of a fault and a wish for help,
the first one counts. With room for operands all arguments are read, and without one those before
the first operand; that one and what follows it is left. -/
def collect (options : List Switch) (room? : Option Nat) (g : Given) :
    List String → Except Early (Given × List String)
  | [] => return (← g.settled, [])
  | argument :: rest => do
    if argument = "--" then
      match room? with
      | none => .error .misuse
      | some room => return (← g.addOperands room rest, [])
    else if !isOptionLike argument then
      match room? with
      | none => return (g, argument :: rest)
      | some room => collect options room? (← g.addOperands room [argument]) rest
    else
      match optionOf? options argument.toList with
      | none => .error .misuse
      | some (o, some value) =>
        if !o.kind.takesValue then .error .misuse
        else collect options room? (← (← g.settled).addOption o value) rest
      | some (o, none) =>
        let g ← g.settled
        if !o.kind.takesValue then collect options room? (← g.addOption o "") rest
        else
          match rest with
          | [] => .error .misuse
          | value :: rest =>
            if isOptionLike value then .error .misuse
            else collect options room? { g with pending? := some (o, value) } rest

/-! ### Requests -/

/-- The value of an option behind the name of the command, or else before it. -/
def valueOf? (before behind : Given) (name : String) : Option String :=
  behind.options.lookup name <|> before.options.lookup name

def optionsOf (before behind : Given) : Options where
  format := if valueOf? before behind "output" = some "json" then .json else .text
  quiet := (valueOf? before behind "quiet").isSome
  config? := valueOf? before behind "config"

def taskOf? (command : Subcommand) (g : Given) : Option Task :=
  match command.name, g.operands with
  | "compile", [graph] => some (.compile graph (g.options.lookup "out"))
  | "decode", [file] => some (.decode file (g.options.lookup "graph"))
  | "fast", [graph] => some (.fast graph)
  | "check", [graph] =>
    some (.check graph (g.options.lookup "replay")
      ((g.options.lookup "timeout").bind (readBounded? UInt64.size)))
  | "serve", [] => some (.serve ((g.options.lookup "port").bind readPort?))
  | _, _ => none

def Early.request? (topic? : Option Subcommand) : Early → Option Request
  | .misuse => none
  | .version => some .version
  | .help => some (.help topic?)

namespace Request

/-- What the arguments behind the name of a command ask for. -/
def ofCommand? (before : Given) (command : Subcommand) (rest : List String) : Option Request :=
  match collect command.options (some command.operand?.toList.length) {} rest with
  | .error e => e.request? (some command)
  | .ok (behind, _) =>
    match before.settled, taskOf? command behind with
    | .ok before, some task => some (.run (optionsOf before behind) task)
    | _, _ => none

/-- The request for help on what is named. No command has commands of its own. -/
def ofTopic? : List String → Option Request
  | [] => some (.help none)
  | [name] => (Subcommand.ofName? name).map (.help ·)
  | _ => none

def ofArguments? (arguments : List String) : Option Request :=
  match collect leadingOptions none {} arguments with
  | .error e => e.request? none
  | .ok (_, []) => none
  | .ok (before, name :: rest) =>
    match Subcommand.ofName? name with
    | none => none
    | some command =>
      if command.name = "help" then ofTopic? rest else ofCommand? before command rest

end Request

end ZoneGuard.CommandLine
