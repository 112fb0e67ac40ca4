import ZoneGuard.Engine.Error
import ZoneGuard.Engine.Host
import ZoneGuard.Spec.Compile
import ZoneGuard.Text.Blank

/-!
# Engine sessions

An engine that is run as a command, once for each specification. What has to be prepared is prepared
by the first run that can, and not again after it has succeeded. Each run has a directory of its
own, which is removed whatever becomes of the run.
-/

namespace ZoneGuard

open Files (OsError)

/-- What a run of an engine delivers. -/
structure EngineOutput where
  /-- The content of the output file. -/
  raw : String
  stdout : String
deriving DecidableEq

/-- The state between the runs of an engine. -/
structure Session (σ : Type) where
  isPrepared : Bool := false
  host : σ

/-- The greatest number of characters of an error text that are reported. -/
def excerptLength : Nat := 2000

/-- The beginning of an error text. -/
def excerpt (bytes : List UInt8) : String :=
  let text := Text.trim (Text.decodeLenient bytes)
  if excerptLength < text.length then String.ofList (text.toList.take excerptLength) ++ "..."
  else text

/-- The status that is reported; `-1` stands for a signal. -/
def reportedStatus (status? : Option Nat) : Int :=
  match status? with
  | some n => n
  | none => -1

namespace EngineConfig

variable {σ : Type} (c : EngineConfig) (h : Host σ)

/-- The standard output of a command that succeeded. -/
def resultOf (program : String) : Completion → Except EngineError (List UInt8)
  | .notStarted e => .error (.spawn (program ++ ": " ++ e.message))
  | .timedOut => .error (.timeout c.timeoutSeconds)
  | .finished status? stdout stderr =>
    if status? = some 0 then .ok stdout
    else .error (.nonZeroExit (reportedStatus status?) (excerpt stderr))

/-- Why a preparation failed, if it did. -/
def preparationFault? (program : String) (completion : Completion) : Option EngineError :=
  match completion with
  | .finished status? _ stderr =>
    if status? = some 0 then none
    else
      let status := toString (reportedStatus status?)
      some (.prepare ("exit status " ++ status ++ ": " ++ excerpt stderr))
  | .notStarted _ | .timedOut =>
    match c.resultOf program completion with
    | .error e => some (.prepare e.message)
    | .ok _ => none

/-- Runs the preparation if there is one and it has not succeeded yet. -/
def prepareSession (s : Session σ) : Except EngineError Unit × Session σ :=
  match c.prepare? with
  | none => (.ok (), s)
  | some command =>
    if s.isPrepared then (.ok (), s)
    else
      let (completion, host) := h.launch command c.timeoutSeconds s.host
      match c.preparationFault? command.program completion with
      | some e => (.error e, { s with host })
      | none => (.ok (), { isPrepared := true, host })

def removeStale (path : String) (host : σ) : Except EngineError Unit × σ :=
  match h.removeFile path host with
  | (.ok (), host) | (.error .notFound, host) => (.ok (), host)
  | (.error e, host) => (.error (.io e.message), host)

def readOutput (path : String) (stdout : List UInt8) (host : σ) :
    Except EngineError EngineOutput × σ :=
  match h.readText path host with
  | (.ok raw, host) => (.ok ⟨raw, Text.decodeLenient stdout⟩, host)
  | (.error .notFound, host) => (.error (.missingOutput path), host)
  | (.error e, host) => (.error (.io e.message), host)

def pathsIn (directory : String) : RunPaths where
  spec := Files.join directory c.specFile
  output := Files.join directory c.outputFile
  directory := directory

def runIn (spec : Specification) (directory : String) (host : σ) :
    Except EngineError EngineOutput × σ :=
  let paths := c.pathsIn directory
  match h.writeFile paths.spec spec.text host with
  | (.error e, host) => (.error (.io e.message), host)
  | (.ok (), host) =>
    match removeStale h paths.output host with
    | (.error e, host) => (.error e, host)
    | (.ok (), host) =>
      let (completion, host) := h.launch (c.command.substitute paths) c.timeoutSeconds host
      match c.resultOf c.command.program completion with
      | .error e => (.error e, host)
      | .ok stdout => readOutput h paths.output stdout host

/-- Runs the engine on a specification in a new directory under the given one. -/
def runUnder (spec : Specification) (root : String) (host : σ) :
    Except EngineError EngineOutput × σ :=
  match h.makeDirectories root host with
  | (.error e, host) => (.error (.io e.message), host)
  | (.ok (), host) =>
    match h.makeRunDirectory root host with
    | (.error e, host) => (.error (.io e.message), host)
    | (.ok directory, host) =>
      let (result, host) := c.runIn h spec directory host
      (result, h.removeTree directory host)

/-- Solves a specification. A configuration that is not usable does nothing. -/
def solve (temporary : String) (spec : Specification) (s : Session σ) :
    Except EngineError EngineOutput × Session σ :=
  match c.fault? with
  | some fault => (.error (.config fault.message), s)
  | none =>
    match c.prepareSession h s with
    | (.error e, s) => (.error e, s)
    | (.ok (), s) =>
      let (result, host) := c.runUnder h spec (c.workRoot temporary) s.host
      (result, { s with host })

/-- Solves specifications one after the other. -/
def solveAll (temporary : String) :
    List Specification → Session σ → List (Except EngineError EngineOutput) × Session σ
  | [], s => ([], s)
  | spec :: specs, s =>
    let (result, s) := c.solve h temporary spec s
    let (results, s) := solveAll temporary specs s
    (result :: results, s)

end EngineConfig

end ZoneGuard
