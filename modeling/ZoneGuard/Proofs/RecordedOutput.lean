import Mathlib
import ZoneGuard.CommandLine.Run
import ZoneGuard.Proofs.Arguments
import ZoneGuard.Proofs.Json.Bytes
import ZoneGuard.Proofs.Outcome
import ZoneGuard.Proofs.ReportJson

/-!
# Three ways to a report on recorded output

Output that an engine has left in a file is reported on by decoding it for a graph
or by checking the graph with it, and a service whose engine gives this output
answers with a report.  It is the same report each time.
-/

namespace ZoneGuard

open Json (Value)

/-- An engine that ends well has its output interpreted, for any graph that compiles. -/
theorem Graph.analyze_of_output {g : Graph} {spec : Specification} (hspec : g.compile = .ok spec)
    {engine : Specification → Except EngineError String} {output : String}
    (hengine : engine spec = .ok output) :
    g.analyze engine = .ok (g.interpret output spec.digest) := by
  simp only [Graph.analyze, hspec, hengine, conclude]

/-- A graph is read from the value that its text denotes. -/
theorem Graph.ofText_eq_ok {text : String} {g : Graph} (h : ofText text = .ok g) :
    ∃ v, Json.parse text = .ok v ∧ ofJson v = .ok g := by
  rw [ofText] at h
  split at h
  · cases h
  · next v hv => exact ⟨v, hv, h⟩

/-! ## The command line -/

namespace CommandLine

/-- The arguments ask for the report on the output in one file for the graph in
another. -/
inductive AsksForRecorded (o : Options) (graph file : String) (arguments : List String) : Prop
  | decode (h : Request.ofArguments? arguments = some (.run o (.decode file (some graph))))
  | check {timeout? : Option Nat}
      (h : Request.ofArguments? arguments = some (.run o (.check graph (some file) timeout?)))

/-- The program ends well, and has printed the report behind what its machine had
written. -/
structure Prints (o : Options) (report : Report) (m : Machine) (outcome : Outcome) : Prop where
  code : outcome.code = 0
  stdout : outcome.stdout = (m.takeWritten Machine.outputPlace).1 ++ reportText o report

/-- What a task comes to is printed, with the status of success. -/
theorem prints_run_of_perform {o : Options} {m : Machine} {settings : Settings} {task : Task}
    {arguments : List String} {report : Report}
    (harguments : Request.ofArguments? arguments = some (.run o task))
    (hsettings : Settings.load m.environment m.readText o.config? = .ok settings)
    (hperform : perform o settings task m = (.ok (reportText o report), m)) :
    Prints o report m (run arguments m).1 := by
  simp only [run, harguments, hsettings, hperform]
  exact ⟨rfl, rfl⟩

section

variable {m : Machine} {graphPath file graphText output : String} {g : Graph}
  {spec : Specification}

theorem readFile_eq_ok (h : m.readText file = .ok output) : readFile m file = .ok output := by
  rw [readFile, h]

theorem loadGraph_eq_ok (hgraph : m.readText graphPath = .ok graphText)
    (hg : Graph.ofText graphText = .ok g) : loadGraph m graphPath = .ok g := by
  rw [loadGraph, readFile_eq_ok hgraph, except_bind_eq_ok_iff]
  exact ⟨graphText, rfl, by rw [hg]⟩

theorem decode_eq_ok (o : Options) (hload : loadGraph m graphPath = .ok g)
    (hspec : g.compile = .ok spec) (hfile : m.readText file = .ok output) :
    decode o file (some graphPath) m = .ok (reportText o (g.interpret output spec.digest)) := by
  have hcompile : compileGraph g = .ok spec := by rw [compileGraph, hspec]
  rw [decode, except_bind_eq_ok_iff]
  refine ⟨output, readFile_eq_ok hfile, except_bind_eq_ok_iff.2 ⟨g, hload, ?_⟩⟩
  exact except_bind_eq_ok_iff.2 ⟨spec, hcompile, rfl⟩

theorem check_eq_ok (o : Options) (settings : Settings) (hload : loadGraph m graphPath = .ok g)
    (hspec : g.compile = .ok spec) (hfile : m.readText file = .ok output)
    (timeout? : Option Nat) : check o settings graphPath (some file) timeout? m =
      (.ok (reportText o (g.interpret output spec.digest)), m) := by
  have hanalyze : (g.analyze fun _ => .ok output) = .ok (g.interpret output spec.digest) :=
    Graph.analyze_of_output hspec rfl
  simp only [check, hload, readFile_eq_ok hfile, hanalyze]

/-- Either command line prints the report on the recorded output. -/
theorem prints_of_asksForRecorded {o : Options} {settings : Settings}
    (hsettings : Settings.load m.environment m.readText o.config? = .ok settings)
    (hload : loadGraph m graphPath = .ok g) (hspec : g.compile = .ok spec)
    (hfile : m.readText file = .ok output) {arguments : List String}
    (h : AsksForRecorded o graphPath file arguments) :
    Prints o (g.interpret output spec.digest) m (run arguments m).1 := by
  cases h with
  | decode h =>
      refine prints_run_of_perform h hsettings ?_
      rw [perform, decode_eq_ok o hload hspec hfile]
  | check h =>
      refine prints_run_of_perform h hsettings ?_
      rw [perform, check_eq_ok o settings hload hspec hfile]

end

end CommandLine

namespace Http

/-- The request brings a text to be analysed, in a form that a service accepts. -/
structure Request.BringsGraph (maxBodyBytes : Nat) (text : String) (r : Request) : Prop where
  method : r.method = "POST"
  path : r.path = "/analyze"
  mediaType : ((r.header? "content-type").bind MediaType.ofText?).any MediaType.isJson = true
  body : r.body.bytes = Text.encode text
  size : r.body.bytes.length ≤ maxBodyBytes

theorem Request.BringsGraph.json {maxBodyBytes : Nat} {text : String} {r : Request}
    (h : r.BringsGraph maxBodyBytes text) {v : Value} (hv : Json.parse text = .ok v) :
    r.json maxBodyBytes = .ok v := by
  have hparse : Json.parseBytes r.body.bytes = .ok v := by
    rw [h.body, Json.parseBytes_encode, hv]
  simp [Request.json, h.mediaType, Nat.not_lt.2 h.size, hparse]

def reportBody (report : Report) : Value :=
  .object [("success", .bool true), ("result", report.toJson)]

theorem sorted_reportBody (report : Report) : (reportBody report).sorted =
    .object [("result", report.toJson.sorted), ("success", .bool true)] := rfl

theorem answer_of_bringsGraph {s : Service} {text output : String} {g : Graph}
    {spec : Specification} {r : Request} (h : r.BringsGraph s.maxBodyBytes text)
    (hg : Graph.ofText text = .ok g) (hspec : g.compile = .ok spec)
    (hengine : s.engine spec = .ok output) :
    (s.answer r).status = 200 ∧
      (s.answer r).body = (reportBody (g.interpret output spec.digest)).sorted.compact := by
  obtain ⟨v, hv, hgraph⟩ := Graph.ofText_eq_ok hg
  have hanalyze : ZoneGuard.analyze v s.engine = .ok (g.interpret output spec.digest) := by
    simp only [ZoneGuard.analyze, hgraph, Graph.analyze_of_output hspec hengine]
  have hanswer : s.analyze r = .json 200 (reportBody (g.interpret output spec.digest)) := by
    simp only [Service.analyze, h.json hv, hanalyze, reportBody]
  have hendpoint : Endpoint.ofPath? r.path = some .analyze := by rw [h.path]; rfl
  simp [Service.answer, h.method, hendpoint, Service.answerAt, Endpoint.methods, hanswer,
    Response.withHeader, Response.json]

end Http

/-! ## One report -/

/-- The findings of a report on engine output are those of some engine beside the
local ones. -/
theorem Graph.exists_findings_interpret (g : Graph) (output digest : String) : ∃ engine,
    (g.interpret output digest).findings = engine.join g.localFindings ∧
      (g.interpret output digest).groups = .merge engine g.localFindings := by
  by_cases hlacks : LacksFindings (.ok output)
  · obtain ⟨reason, hreason⟩ := g.interpret_of_lacksFindings hlacks digest
    rw [hreason]
    exact ⟨∅, rfl, rfl⟩
  · obtain ⟨t, ht, hmissing⟩ := not_lacksFindings_iff.1 hlacks
    rw [g.interpret_of_missingRules_eq_nil ht hmissing]
    exact ⟨_, rfl, rfl⟩

/-- The answer has the report as its result.  Read again, it is the very value that
is read from the report as the program prints it; that a word of 64 bits can count
the findings keeps the counts from being read as rounded numbers. -/
structure Http.Response.HasReport (report : Report) (r : Http.Response) : Prop where
  status : r.status = 200
  body : r.body = (Http.reportBody report).sorted.compact
  read : report.findingCount < UInt64.size → ∃ result answer,
    Json.parse (CommandLine.reportText { format := .json } report) = .ok result ∧
      Json.parse r.body = .ok answer ∧ answer.member? "success" = some (.bool true) ∧
        answer.member? "result" = some result

theorem Graph.hasReport_of_body {g : Graph} {output digest : String} {r : Http.Response}
    (hstatus : r.status = 200)
    (hbody : r.body = (Http.reportBody (g.interpret output digest)).sorted.compact) :
    r.HasReport (g.interpret output digest) := by
  refine ⟨hstatus, hbody, fun hcount => ?_⟩
  obtain ⟨engine, hfindings, hgroups⟩ := g.exists_findings_interpret output digest
  have hreport : ∀ depth, Json.IsReadable (depth + 5) (g.interpret output digest).toJson :=
    Report.isReadable_toJson hfindings hgroups hcount
  have hreadable : Json.IsReadable (126 + 1) (Http.reportBody (g.interpret output digest)) := by
    refine ⟨by simp, ?_⟩
    simp only [List.forall_mem_cons, List.not_mem_nil, false_imp_iff, implies_true, and_true]
    exact ⟨trivial, hreport 121⟩
  have hparse : Json.parse r.body =
      .ok (Http.reportBody (g.interpret output digest)).sorted := by
    rw [hbody, Json.parse_compact hreadable.sorted, hreadable.sorted_sorted]
  rw [Http.sorted_reportBody] at hparse
  exact ⟨_, _, Json.parse_pretty (hreport 122), hparse, rfl, rfl⟩

/-- A graph and engine output, each in a file of the machine or sent to a service,
come to one report, however the report is asked for. -/
theorem recorded_reports_agree {m : Machine} {o : CommandLine.Options} {settings : Settings}
    {graphPath file graphText output : String} {g : Graph}
    (hsettings : Settings.load m.environment m.readText o.config? = .ok settings)
    (hgraph : m.readText graphPath = .ok graphText) (hfile : m.readText file = .ok output)
    (hg : Graph.ofText graphText = .ok g) :
    ∃ report : Report,
      (∀ arguments, CommandLine.AsksForRecorded o graphPath file arguments →
        CommandLine.Prints o report m (CommandLine.run arguments m).1) ∧
      ((∀ path ∈ o.config?, CommandLine.IsPlainPath path) → CommandLine.IsPlainPath graphPath →
        CommandLine.IsPlainPath file →
          CommandLine.AsksForRecorded o graphPath file
              (o.arguments ++ ["decode", file, "--graph", graphPath]) ∧
            CommandLine.AsksForRecorded o graphPath file
              (o.arguments ++ ["check", graphPath, "--replay", file])) ∧
      ∀ (s : Http.Service) (r : Http.Request), (∀ spec, s.engine spec = .ok output) →
        r.BringsGraph s.maxBodyBytes graphText → (s.answer r).HasReport report := by
  obtain ⟨v, -, hv⟩ := Graph.ofText_eq_ok hg
  obtain ⟨spec, hspec⟩ : ∃ spec, g.compile = .ok spec :=
    ⟨_, (Graph.consistent_of_ofJson hv).compile_eq_ok⟩
  refine ⟨g.interpret output spec.digest, fun arguments => ?_,
    fun hconfig hplain hplain' => ⟨?_, ?_⟩, ?_⟩
  · exact CommandLine.prints_of_asksForRecorded hsettings (CommandLine.loadGraph_eq_ok hgraph hg)
      hspec hfile
  · exact .decode (CommandLine.ofArguments?_decode o hconfig hplain' hplain)
  · exact .check (CommandLine.ofArguments?_check o hconfig hplain hplain')
  · intro s r hengine hbrings
    obtain ⟨hstatus, hbody⟩ := Http.answer_of_bringsGraph hbrings hg hspec (hengine _)
    exact g.hasReport_of_body hstatus hbody

/-- A file in the current directory is read by its name. -/
theorem Files.Tree.readText_of_file {t : Tree} {current : Location} {name text : String}
    (hplain : pathFault? name = none ∧ isAbsolute name = false ∧ parts name = [name] ∧
      asksForDirectory name = false ∧ name.isEmpty = false)
    (hname : name ≠ "." ∧ name ≠ "..") (hshort : name.utf8ByteSize ≤ maxNameBytes) (number : Nat)
    (hfile : t.get? (current ++ [name]) = some (.file number))
    (htext : Text.decode? (t.file number).content = some text) :
    t.readText current name = .ok text := by
  have hwalk : t.walk true maxLinks current [name] = .ok (current ++ [name]) := by
    rw [walk, if_neg hname.1, if_neg hname.2, if_neg (Nat.not_lt.2 hshort), hfile]
    rfl
  have hfind : t.find current name = .ok (.file number) := by
    simp [find, locate, resolve, hplain, hwalk, hfile, Except.map]
  simp only [readText, read, hfind, htext]

/-- A graph with a system that is not registered. -/
def shadowText : String :=
  "\x7b\"locations\":[\x7b\"id\":\"z\"\x7d],\"systems\":[\x7b\"id\":1,\"location\":\"z\"," ++
    "\"isRegistered\":false\x7d]\x7d"

/-- A machine with the graph and with output that was cut short. -/
def recordedMachine : Machine where
  tree := (Files.Tree.add {} ["g"] { content := Text.encode shadowText }).add ["x"]
    { content := Text.encode "<instance>" }

/-- A service whose engine gives the output that was cut short. -/
def recordedService : Http.Service := ⟨"replay", fun _ => .ok "<instance>", 100⟩

def recordedRequest : Http.Request where
  method := "POST"
  target := "/analyze?trace"
  headers := [("Content-Type", "application/json; charset=utf-8")]
  body := shadowText

theorem recorded_reports_agree_shadow :
    Settings.load recordedMachine.environment recordedMachine.readText none = .ok {} ∧
      recordedMachine.readText "g" = .ok shadowText ∧
      recordedMachine.readText "x" = .ok "<instance>" ∧
      recordedRequest.BringsGraph 100 shadowText ∧
      ∃ g report, Graph.ofText shadowText = .ok g ∧
        CommandLine.Prints { format := .json } report recordedMachine
          (CommandLine.run ["--output", "json", "decode", "x", "--graph", "g"] recordedMachine).1 ∧
        CommandLine.Prints { format := .json } report recordedMachine
          (CommandLine.run ["--output", "json", "check", "g", "--replay", "x"] recordedMachine).1 ∧
        (recordedService.answer recordedRequest).HasReport report := by
  have hsettings : Settings.load recordedMachine.environment recordedMachine.readText none =
      .ok {} := by decide +kernel
  have hgraph : recordedMachine.readText "g" = .ok shadowText :=
    Files.Tree.readText_of_file (by decide +kernel) (by decide) (by decide) 0 (by decide +kernel)
      (by decide +kernel)
  have hfile : recordedMachine.readText "x" = .ok "<instance>" :=
    Files.Tree.readText_of_file (by decide +kernel) (by decide) (by decide) 1 (by decide +kernel)
      (by decide +kernel)
  have hbrings : recordedRequest.BringsGraph 100 shadowText :=
    ⟨rfl, by decide +kernel, by decide +kernel, rfl, by decide +kernel⟩
  have hread : (Graph.ofText shadowText).isOk = true := by decide +kernel
  cases hg : Graph.ofText shadowText with
  | error e => rw [hg] at hread; cases hread
  | ok g =>
      obtain ⟨report, hprints, hlines, hanswers⟩ :=
        recorded_reports_agree (o := { format := .json }) hsettings hgraph hfile hg
      have hplain : CommandLine.IsPlainPath "g" ∧ CommandLine.IsPlainPath "x" :=
        ⟨⟨by decide, by decide⟩, ⟨by decide, by decide⟩⟩
      obtain ⟨hdecode, hcheck⟩ := hlines (by simp) hplain.1 hplain.2
      exact ⟨hsettings, hgraph, hfile, hbrings, g, report, rfl, hprints _ hdecode,
        hprints _ hcheck, hanswers recordedService recordedRequest (fun _ => rfl) hbrings⟩

end ZoneGuard
