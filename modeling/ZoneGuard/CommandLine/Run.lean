import ZoneGuard.Analysis
import ZoneGuard.CommandLine.Help
import ZoneGuard.Engine.Session
import ZoneGuard.Http.Service
import ZoneGuard.Machine

/-!
# Running the program

The tasks of the command line on a machine. A task prints its result, or fails with a message.
Settings are loaded before any task, and without them no task is begun.
-/

namespace ZoneGuard.CommandLine

open Json (Value)

/-- What a run of the program leaves behind besides files. -/
structure Outcome where
  code : Nat
  stdout : String := ""
  stderr : String := ""
deriving DecidableEq, Repr

inductive Failure where
  | settings (e : SettingsError)
  | unreadable (path : String) (e : Files.OsError)
  | unwritable (path : String) (e : Files.OsError)
  | invalidGraph (path : String) (e : GraphError)
  | compile (e : CompileError)
  | decode (path : String) (e : DecodeError)
  | analysis (e : AnalysisError)
  /-- There is no network to listen on. -/
  | unserved

def Failure.message : Failure → String
  | .settings e => e.message
  | .unreadable path e => "error reading file '" ++ path ++ "': " ++ e.message
  | .unwritable path e => "error writing '" ++ path ++ "': " ++ e.message
  | .invalidGraph path e => "invalid graph '" ++ path ++ "': " ++ e.message
  | .compile e => "compile error: " ++ e.message
  | .decode path e => path ++ ": " ++ e.message
  | .analysis e => "analysis failed (" ++ e.kind ++ "): " ++ e.message
  | .unserved => "server error: Network is unreachable (os error 101)"

/-- The text of a failure in the format asked for; nothing if quiet. -/
def Failure.text (f : Failure) (o : Options) : String :=
  if o.quiet then ""
  else
    match o.format with
    | .text => f.message ++ "\n"
    | .json => (Value.object [("error", .string f.message)]).compact ++ "\n"

/-! ### Printing -/

def jsonText (v : Value) : String := v.pretty ++ "\n"

def reportText (o : Options) (r : Report) : String :=
  if o.quiet then ""
  else
    match o.format with
    | .text => r.text
    | .json => jsonText r.toJson

/-- A specification as it is printed, which being quiet does not suppress. -/
def specificationText (o : Options) (s : Specification) : String :=
  match o.format with
  | .text => s.text
  | .json => jsonText (.object [("digest", .string s.digest), ("spec", .string s.text)])

def writtenText (o : Options) (path : String) (s : Specification) : String :=
  if o.quiet then ""
  else
    match o.format with
    | .text => "wrote " ++ path ++ " (sha256 " ++ Report.shortDigest s.digest ++ ")\n"
    | .json =>
      jsonText (.object
        [("bytes", .ofNat s.text.utf8ByteSize), ("digest", .string s.digest),
         ("path", .string path)])

def relationLines (t : RelationTable) (label : String) : List String :=
  let tuples := t.get label
  (label ++ " (" ++ toString tuples.length ++ ")")
    :: tuples.map fun tuple => "  (" ++ ", ".intercalate tuple ++ ")"

def relationsJson (t : RelationTable) : Value :=
  .object (t.labels.map fun label => (label, .array ((t.get label).map .ofTexts)))

def relationsText (o : Options) (t : RelationTable) : String :=
  if o.quiet then ""
  else
    match o.format with
    | .text => Text.unlines (t.labels.flatMap (relationLines t))
    | .json => jsonText (relationsJson t)

/-! ### Tasks -/

def readFile (m : Machine) (path : String) : Except Failure String :=
  match m.readText path with
  | .ok text => .ok text
  | .error e => .error (.unreadable path e)

def loadGraph (m : Machine) (path : String) : Except Failure Graph := do
  let text ← readFile m path
  match Graph.ofText text with
  | .ok g => .ok g
  | .error e => .error (.invalidGraph path e)

def compileGraph (g : Graph) : Except Failure Specification :=
  match g.compile with
  | .ok s => .ok s
  | .error e => .error (.compile e)

/-- Compiles a graph, and prints the specification or writes it to a file. -/
def compile (o : Options) (graph : String) (out? : Option String) (m : Machine) :
    Except Failure String × Machine :=
  match loadGraph m graph >>= compileGraph with
  | .error f => (.error f, m)
  | .ok s =>
    match out? with
    | none => (.ok (specificationText o s), m)
    | some path =>
      match m.writeFile path s.text with
      | (.error e, m) => (.error (.unwritable path e), m)
      | (.ok (), m) => (.ok (writtenText o path s), m)

/-- Prints the relations of engine output, or the report on it for a graph. -/
def decode (o : Options) (file : String) (graph? : Option String) (m : Machine) :
    Except Failure String := do
  let output ← readFile m file
  match graph? with
  | none =>
    match RelationTable.ofText output with
    | .error e => .error (.decode file e)
    | .ok t => return relationsText o t
  | some path =>
    let g ← loadGraph m path
    let s ← compileGraph g
    return reportText o (g.interpret output s.digest)

/-- Prints the report that needs no engine. -/
def fast (o : Options) (graph : String) (m : Machine) : Except Failure String := do
  return reportText o (← loadGraph m graph).localReport

def analyzeOn (c : EngineConfig) (g : Graph) (m : Machine) :
    Except AnalysisError Report × Machine :=
  match g.compile with
  | .error e => (.error (.compile e), m)
  | .ok spec =>
    let (result, s) := c.solve Machine.host m.environment.temporary spec { host := m }
    match g.conclude spec.digest (result.map (·.raw)) with
    | .ok report => (.ok report, s.host)
    | .error e => (.error (.engine e), s.host)

/-- Prints the report on a graph, with recorded output or by running the engine. -/
def check (o : Options) (settings : Settings) (graph : String) (replay? : Option String)
    (timeout? : Option Nat) (m : Machine) : Except Failure String × Machine :=
  let printed : Except AnalysisError Report → Except Failure String
    | .ok report => .ok (reportText o report)
    | .error e => .error (.analysis e)
  match loadGraph m graph with
  | .error f => (.error f, m)
  | .ok g =>
    match replay? with
    | some path =>
      match readFile m path with
      | .error f => (.error f, m)
      | .ok output => (printed (g.analyze fun _ => .ok output), m)
    | none =>
      let engine := settings.engine
      let engine := { engine with timeoutSeconds := timeout?.getD engine.timeoutSeconds }
      let (result, m) := analyzeOn engine g m
      (printed result, m)

def perform (o : Options) (settings : Settings) (task : Task) (m : Machine) :
    Except Failure String × Machine :=
  match task with
  | .compile graph out? => compile o graph out? m
  | .decode file graph? => (decode o file graph? m, m)
  | .fast graph => (fast o graph m, m)
  | .check graph replay? timeout? => check o settings graph replay? timeout? m
  | .serve _ => (.error .unserved, m)

def Task.paths : Task → List String
  | .compile graph out? => graph :: out?.toList
  | .decode file graph? => file :: graph?.toList
  | .fast graph => [graph]
  | .check graph replay? _ => graph :: replay?.toList
  | .serve _ => []

/-- The paths of the files that a run of the program is about. -/
def Request.paths (env : Environment) : Request → List String
  | .version | .help _ => []
  | .run o task => (o.config? <|> env.lookup "ARCHCHECK_CONFIG").toList ++ task.paths

def run (arguments : List String) (m : Machine) : Outcome × Machine :=
  match Request.ofArguments? arguments with
  | none => ({ code := 2, stderr := programHelp }, m)
  | some .version => ({ code := 0, stdout := "archcheck " ++ version ++ "\n" }, m)
  | some (.help topic?) => ({ code := 0, stdout := helpText topic? }, m)
  | some (.run o task) =>
    let (result, m) : Except Failure String × Machine :=
      match Settings.load m.environment m.readText o.config? with
      | .error e => (.error (.settings e), m)
      | .ok settings => perform o settings task m
    let (stdout, m) := m.takeWritten Machine.outputPlace
    let (stderr, m) := m.takeWritten Machine.errorPlace
    match result with
    | .ok text => ({ code := 0, stdout := stdout ++ text, stderr }, m)
    | .error f => ({ code := 1, stdout, stderr := stderr ++ f.text o }, m)

end ZoneGuard.CommandLine
