import ZoneGuard.Files.Path
import ZoneGuard.Json.Record
import ZoneGuard.Text.Splice

/-!
# Configuration of an engine

How an engine is run: the command with placeholders for the paths of one run, a command that has to
succeed before, a time limit, the directory for runs and the names of the files in it.
-/

namespace ZoneGuard

open Json (Value Record RecordType)

/-- A program with its arguments. -/
structure Command where
  program : String
  arguments : List String := []
deriving DecidableEq, Repr

/-- How an engine is run. -/
structure EngineConfig where
  command : Command :=
    { program := "java"
      arguments :=
        ["-cp", "engine:engine/alloy4.2.jar", "AlloyRunner", "\x7bspec\x7d", "\x7boutput\x7d"] }
  /-- What has to succeed once before the first run. -/
  prepare? : Option Command := none
  timeoutSeconds : Nat := 60
  /-- Where the directories of the runs are made, if not in the directory for temporary files. -/
  workDirectory? : Option String := none
  maxConcurrent : Nat := 2
  specFile : String := "spec.als"
  outputFile : String := "spec.xml"
deriving DecidableEq, Repr

structure RunPaths where
  spec : String
  output : String
  directory : String
deriving DecidableEq, Repr

/-- The argument with its placeholders replaced, one kind after the other. -/
def RunPaths.substitute (paths : RunPaths) (argument : String) : String :=
  Text.replace "\x7bworkdir\x7d" paths.directory
    (Text.replace "\x7boutput\x7d" paths.output
      (Text.replace "\x7bspec\x7d" paths.spec argument))

def Command.substitute (c : Command) (paths : RunPaths) : Command :=
  { c with arguments := c.arguments.map paths.substitute }

/-- Why a configuration is not usable. -/
inductive ConfigFault where
  /-- The setting does not name a file of the run's directory. -/
  | notPlainName (setting name : String)
  | sameName (name : String)
deriving DecidableEq, Repr

def ConfigFault.message : ConfigFault → String
  | .notPlainName setting name =>
    setting ++ " must be a plain file name inside the work directory, got '" ++ name ++ "'"
  | .sameName name => "spec_file and output_file must differ, both are '" ++ name ++ "'"

namespace EngineConfig

def fault? (c : EngineConfig) : Option ConfigFault :=
  if !Files.isPlainName c.specFile then some (.notPlainName "spec_file" c.specFile)
  else if !Files.isPlainName c.outputFile then some (.notPlainName "output_file" c.outputFile)
  else if c.specFile = c.outputFile then some (.sameName c.specFile)
  else none

/-- Where the directories of the runs are made, given the directory for temporary files. -/
def workRoot (c : EngineConfig) (temporary : String) : String :=
  c.workDirectory?.getD (Files.join temporary "archcheck")

end EngineConfig

/-! ### Reading -/

/-- The value of a field as read, or the default if the field is not given. -/
def fieldOr {α : Type} (r : Record) (name : String) (default : α) (read : Value → Option α) :
    Option α :=
  match r.values.lookup name with
  | some v => read v
  | none => some default

/-- The natural number below the bound that a value is. -/
def boundedNat? (bound : Nat) (v : Value) : Option Nat := v.nat?.filter (· < bound)

/-- The record that a value is. In a loose document a positional record may go on after its last
field. -/
def record? (t : RecordType) (loose : Bool) (v : Value) : Option Record :=
  let v := match v with
    | .array items => .array (if loose then items.take t.fields.length else items)
    | v => v
  match t.read v with
  | .ok r => some r
  | .error _ => none

def texts? (v : Value) : Option (List String) := v.items?.bind fun items => items.mapM (·.text?)

def nullable? {α : Type} (read : Value → Option α) : Value → Option (Option α)
  | .null => some none
  | v => (read v).map some

def commandRecord : RecordType where
  name := "CommandSpec"
  fields := [⟨"program", []⟩, ⟨"args", []⟩]

def Command.ofValue? (loose : Bool) (v : Value) : Option Command := do
  let r ← record? commandRecord loose v
  let program ← (r.values.lookup "program").bind (·.text?)
  let arguments ← fieldOr r "args" [] texts?
  return { program, arguments }

def engineRecord : RecordType where
  name := "EngineConfig"
  fields :=
    [⟨"command", []⟩, ⟨"prepare", []⟩, ⟨"timeout_secs", []⟩, ⟨"work_dir", []⟩,
     ⟨"max_concurrent", []⟩, ⟨"spec_file", []⟩, ⟨"output_file", []⟩]

def EngineConfig.ofValue? (loose : Bool) (v : Value) : Option EngineConfig := do
  let default : EngineConfig := {}
  let r ← record? engineRecord loose v
  let command ← fieldOr r "command" default.command (Command.ofValue? loose)
  let prepare? ← fieldOr r "prepare" default.prepare? (nullable? (Command.ofValue? loose))
  let timeoutSeconds ← fieldOr r "timeout_secs" default.timeoutSeconds (boundedNat? UInt64.size)
  let workDirectory? ← fieldOr r "work_dir" default.workDirectory? (nullable? (·.text?))
  let maxConcurrent ← fieldOr r "max_concurrent" default.maxConcurrent (boundedNat? UInt64.size)
  let specFile ← fieldOr r "spec_file" default.specFile (·.text?)
  let outputFile ← fieldOr r "output_file" default.outputFile (·.text?)
  return {
    command, prepare?, timeoutSeconds, workDirectory?, maxConcurrent, specFile, outputFile }

end ZoneGuard
