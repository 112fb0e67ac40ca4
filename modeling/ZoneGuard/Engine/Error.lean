/-!
# Failures of an engine

The ways in which an engine fails to deliver output. Only missing output leaves something to report;
every other failure ends the analysis.
-/

namespace ZoneGuard

/-- Why an engine delivered no output. -/
inductive EngineError where
  /-- The command could not be started. -/
  | spawn (detail : String)
  /-- The configuration is not usable. -/
  | config (detail : String)
  /-- The command that has to come first failed. -/
  | prepare (detail : String)
  /-- The command failed; `code` is `-1` if a signal ended it. -/
  | nonZeroExit (code : Int) (stderr : String)
  | timeout (seconds : Nat)
  /-- The command left no output at the place. -/
  | missingOutput (place : String)
  /-- A file or directory could not be used. -/
  | io (detail : String)
deriving DecidableEq, Repr

namespace EngineError

def message : EngineError → String
  | .spawn detail => "failed to start engine: " ++ detail
  | .config detail => "invalid engine configuration: " ++ detail
  | .prepare detail => "engine prepare step failed: " ++ detail
  | .nonZeroExit code stderr => "engine exited with status " ++ toString code ++ ": " ++ stderr
  | .timeout seconds => "engine timed out after " ++ toString seconds ++ " seconds"
  | .missingOutput place => "engine produced no output at " ++ place
  | .io detail => "engine I/O error: " ++ detail

/-- Whether an analysis can go on without the engine's findings. -/
def isDegradable : EngineError → Bool
  | .missingOutput _ => true
  | _ => false

end EngineError

end ZoneGuard
