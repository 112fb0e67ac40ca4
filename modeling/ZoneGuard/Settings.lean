import ZoneGuard.Engine.Config
import ZoneGuard.Files.Tree
import ZoneGuard.Text.Blank
import ZoneGuard.Toml.Reader

/-!
# Settings

What the program is configured with, in layers: the defaults, then a document, then variables of the
environment. A later layer wins, and the result has to be usable.
-/

namespace ZoneGuard

open Json (Value RecordType)

abbrev Environment := List (String × String)

/-- The program's settings. -/
structure Settings where
  engine : EngineConfig := {}
  /-- The port that the service listens on. -/
  port : Nat := 3001
  /-- The size up to which the service accepts a request's body. -/
  maxBodyBytes : Nat := 10 * 1024 * 1024
deriving DecidableEq, Repr

/-- Why there are no settings. -/
inductive SettingsError where
  | unreadable (path : String) (e : Files.OsError)
  /-- The document is not well formed, or has an unknown section or a setting of a wrong type. -/
  | malformed (path : String)
  | badTimeout (text : String)
  | badPort (text : String)
  | unusable (fault : ConfigFault)
deriving DecidableEq

def SettingsError.message : SettingsError → String
  | .unreadable path e => "error reading config '" ++ path ++ "': " ++ e.message
  | .malformed path => "error parsing config '" ++ path ++ "': invalid document"
  | .badTimeout text =>
    "ARCHCHECK_ENGINE_TIMEOUT must be a number of seconds, got '" ++ text ++ "'"
  | .badPort text => "ARCHCHECK_PORT must be a port number, got '" ++ text ++ "'"
  | .unusable fault => "invalid engine config: " ++ fault.message

/-! ### The document -/

def settingsRecord : RecordType where
  name := "ArchcheckConfig"
  fields := [⟨"engine", []⟩, ⟨"server", []⟩]

/-- The fields of the service's section. -/
def serverRecord : RecordType where
  name := "ServerConfig"
  fields := [⟨"port", []⟩, ⟨"max_body_bytes", []⟩]

def hasOnlyFields (t : RecordType) : Value → Bool
  | .object members => members.all fun (name, _) => (t.fieldName? name).isSome
  | _ => true

/-- The port and the size limit that a section describes, by default those of the settings. -/
def Settings.readServer? (s : Settings) (part : Value) : Option Settings := do
  guard (hasOnlyFields serverRecord part)
  let r ← record? serverRecord true part
  let port ← fieldOr r "port" s.port (boundedNat? UInt16.size)
  let maxBodyBytes ← fieldOr r "max_body_bytes" s.maxBodyBytes (boundedNat? UInt64.size)
  return { s with port, maxBodyBytes }

def Settings.ofDocument? (document : Value) : Option Settings := do
  guard (hasOnlyFields settingsRecord document)
  let r ← record? settingsRecord true document
  let engine ← fieldOr r "engine" {} (EngineConfig.ofValue? true)
  fieldOr r "server" { engine } ({ engine : Settings }).readServer?

/-! ### The layers -/

namespace Settings

def ofFile (read : String → Except Files.OsError String) (path : String) :
    Except SettingsError Settings :=
  match read path with
  | .error e => .error (.unreadable path e)
  | .ok text =>
    match (Toml.parse? text).bind ofDocument? with
    | some s => .ok s
    | none => .error (.malformed path)

/-- The settings with the engine's time limit from the environment. -/
def overrideTimeout (env : Environment) (s : Settings) : Except SettingsError Settings :=
  match env.lookup "ARCHCHECK_ENGINE_TIMEOUT" with
  | none => .ok s
  | some text =>
    match readBounded? UInt64.size (Text.trim text) with
    | some n => .ok { s with engine.timeoutSeconds := n }
    | none => .error (.badTimeout text)

/-- The settings with the directory for runs from the environment, unless it is empty there. -/
def overrideWorkDirectory (env : Environment) (s : Settings) : Settings :=
  match env.lookup "ARCHCHECK_WORK_DIR" with
  | none | some "" => s
  | some path => { s with engine.workDirectory? := some path }

def overridePort (env : Environment) (s : Settings) : Except SettingsError Settings :=
  match env.lookup "ARCHCHECK_PORT" with
  | none => .ok s
  | some text =>
    match readBounded? UInt16.size (Text.trim text) with
    | some n => .ok { s with port := n }
    | none => .error (.badPort text)

def override (env : Environment) (s : Settings) : Except SettingsError Settings := do
  let s ← s.overrideTimeout env
  (s.overrideWorkDirectory env).overridePort env

/-- The settings from the file at `path?`, or else the one that the environment names, and from the
environment. -/
def load (env : Environment) (read : String → Except Files.OsError String)
    (path? : Option String) : Except SettingsError Settings := do
  let fromFile ← match path? <|> env.lookup "ARCHCHECK_CONFIG" with
    | some path => ofFile read path
    | none => .ok {}
  let s ← fromFile.override env
  match s.engine.fault? with
  | some fault => .error (.unusable fault)
  | none => return s

end Settings

def Environment.temporary (env : Environment) : String := (env.lookup "TMPDIR").getD "/tmp"

end ZoneGuard
