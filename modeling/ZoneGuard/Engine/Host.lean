import ZoneGuard.Engine.Config
import ZoneGuard.Files.Tree
import ZoneGuard.Text.Quoted

/-!
# Hosts

The surroundings that an engine is run in: files and commands, as operations on a state. How long a
command takes and what it does to the files is up to the host.
-/

namespace ZoneGuard

open Files (OsError)

/-- What became of a command. -/
inductive Completion where
  | notStarted (e : OsError)
  | timedOut
  /-- The status is absent if a signal ended the command. -/
  | finished (status? : Option Nat) (stdout stderr : List UInt8)
deriving DecidableEq

def Completion.isSuccess : Completion → Bool
  | .finished status? _ _ => status? == some 0
  | .notStarted _ | .timedOut => false

/-- Why a new directory was not made, and where it would have been. -/
structure DirectoryFault where
  error : OsError
  path : String
deriving DecidableEq

def DirectoryFault.message (f : DirectoryFault) : String :=
  f.error.message ++ " at path " ++ Text.quote f.path

/-- Operations on files and commands. Each gives its result and the state after it. -/
structure Host (σ : Type) where
  /-- Makes a directory and those on the way to it. -/
  makeDirectories : String → σ → Except OsError Unit × σ
  /-- Makes a new directory in the given one, and gives its absolute path. -/
  makeRunDirectory : String → σ → Except DirectoryFault String × σ
  /-- Removes a directory with all that is in it. -/
  removeTree : String → σ → σ
  writeFile : String → String → σ → Except OsError Unit × σ
  removeFile : String → σ → Except OsError Unit × σ
  readText : String → σ → Except OsError String × σ
  /-- Runs a command for at most the given number of seconds. -/
  launch : Command → Nat → σ → Completion × σ

end ZoneGuard
