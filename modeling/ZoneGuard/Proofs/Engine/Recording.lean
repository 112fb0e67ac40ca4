import Mathlib
import ZoneGuard.Engine.Session

/-!
# Sessions on a host that is watched

A host can be watched: each operation is noted, and else it does what it did.  What a session
does is then told by the actions noted, whatever the host is.  Watching changes neither the
results of a session nor the state that it leaves.
-/

namespace ZoneGuard

/-! ## Watching a host -/

inductive Action where
  | makeDirectories (path : String)
  | makeRunDirectory (root : String)
  | removeTree (path : String)
  | writeFile (path content : String)
  | removeFile (path : String)
  | readText (path : String)
  | launch (command : Command) (seconds : Nat) (completion : Completion)
deriving DecidableEq

@[simp]
def Action.launched? : Action → Option (Command × Nat)
  | .launch command seconds _ => some (command, seconds)
  | _ => none

/-- The commands that are launched, in order. -/
def launches (actions : List Action) : List (Command × Nat) := actions.filterMap Action.launched?

@[simp]
theorem launches_nil : launches [] = [] := rfl

@[simp]
theorem launches_cons (action : Action) (actions : List Action) :
    launches (action :: actions) = action.launched?.toList ++ launches actions := by
  rw [launches, List.filterMap_cons]
  cases action.launched? <;> rfl

@[simp]
theorem launches_append (actions more : List Action) :
    launches (actions ++ more) = launches actions ++ launches more :=
  List.filterMap_append

section

variable {σ α : Type}

/-- Notes an action behind those before it, which may depend on its result. -/
def noting (action : α → Action) (op : σ → α × σ) (s : List Action × σ) : α × (List Action × σ) :=
  let (a, x) := op s.2
  (a, (s.1 ++ [action a], x))

def Host.watched (h : Host σ) : Host (List Action × σ) where
  makeDirectories path := noting (fun _ => .makeDirectories path) (h.makeDirectories path)
  makeRunDirectory root := noting (fun _ => .makeRunDirectory root) (h.makeRunDirectory root)
  removeTree path s := (s.1 ++ [.removeTree path], h.removeTree path s.2)
  writeFile path content := noting (fun _ => .writeFile path content) (h.writeFile path content)
  removeFile path := noting (fun _ => .removeFile path) (h.removeFile path)
  readText path := noting (fun _ => .readText path) (h.readText path)
  launch command seconds := noting (.launch command seconds) (h.launch command seconds)

section

variable (h : Host σ) (log : List Action) (x : σ)

@[simp]
theorem watched_makeDirectories (path : String) : h.watched.makeDirectories path (log, x) =
    ((h.makeDirectories path x).1,
      (log ++ [.makeDirectories path], (h.makeDirectories path x).2)) := rfl

@[simp]
theorem watched_makeRunDirectory (root : String) : h.watched.makeRunDirectory root (log, x) =
    ((h.makeRunDirectory root x).1,
      (log ++ [.makeRunDirectory root], (h.makeRunDirectory root x).2)) := rfl

@[simp]
theorem watched_removeTree (path : String) : h.watched.removeTree path (log, x) =
    (log ++ [.removeTree path], h.removeTree path x) := rfl

@[simp]
theorem watched_writeFile (path content : String) : h.watched.writeFile path content (log, x) =
    ((h.writeFile path content x).1,
      (log ++ [.writeFile path content], (h.writeFile path content x).2)) := rfl

@[simp]
theorem watched_removeFile (path : String) : h.watched.removeFile path (log, x) =
    ((h.removeFile path x).1, (log ++ [.removeFile path], (h.removeFile path x).2)) := rfl

@[simp]
theorem watched_readText (path : String) : h.watched.readText path (log, x) =
    ((h.readText path x).1, (log ++ [.readText path], (h.readText path x).2)) := rfl

@[simp]
theorem watched_launch (command : Command) (seconds : Nat) :
    h.watched.launch command seconds (log, x) =
      ((h.launch command seconds x).1,
        (log ++ [.launch command seconds (h.launch command seconds x).1],
          (h.launch command seconds x).2)) := rfl

end

/-- The watched operation does what the operation does, and notes actions of the given kind. -/
def Notes (op : σ → α × σ) (watched : List Action × σ → α × (List Action × σ))
    (kind : List Action → Prop) : Prop :=
  ∀ log x, ∃ actions, watched (log, x) = ((op x).1, (log ++ actions, (op x).2)) ∧ kind actions

end

/-! ## A run of the engine -/

namespace EngineConfig

variable {σ : Type} (c : EngineConfig) (h : Host σ)

theorem notes_removeStale (path : String) :
    Notes (removeStale h path) (removeStale h.watched path)
      fun actions => launches actions = [] := by
  intro log x
  refine ⟨[.removeFile path], ?_, rfl⟩
  rw [removeStale, removeStale, watched_removeFile]
  rcases h.removeFile path x with ⟨e | _, y⟩
  · cases e <;> rfl
  · rfl

theorem notes_readOutput (path : String) (stdout : List UInt8) :
    Notes (readOutput h path stdout) (readOutput h.watched path stdout)
      fun actions => launches actions = [] := by
  intro log x
  refine ⟨[.readText path], ?_, rfl⟩
  rw [readOutput, readOutput, watched_readText]
  rcases h.readText path x with ⟨e | raw, y⟩
  · cases e <;> rfl
  · rfl

/-- Starts the engine for the given paths and reads what it leaves. -/
def start (paths : RunPaths) (host : σ) : Except EngineError EngineOutput × σ :=
  let (completion, host) := h.launch (c.command.substitute paths) c.timeoutSeconds host
  match c.resultOf c.command.program completion with
  | .error e => (.error e, host)
  | .ok stdout => readOutput h paths.output stdout host

/-- The engine is launched once, by its own command and with its time limit. -/
theorem notes_start (paths : RunPaths) :
    Notes (c.start h paths) (c.start h.watched paths) fun actions =>
      launches actions = [(c.command.substitute paths, c.timeoutSeconds)] := by
  intro log x
  rw [start, start, watched_launch]
  rcases h.launch (c.command.substitute paths) c.timeoutSeconds x with ⟨completion, y⟩
  let launched : Action := .launch (c.command.substitute paths) c.timeoutSeconds completion
  rcases hresult : c.resultOf c.command.program completion with e | stdout
  · exact ⟨[launched], by simp [launched, hresult], rfl⟩
  · obtain ⟨actions, hactions, hnone⟩ :=
      notes_readOutput h paths.output stdout (log ++ [launched]) y
    exact ⟨launched :: actions, by simpa [launched, hresult] using hactions,
      by simp [launched, hnone]⟩

/-- A run step by step: a step that fails ends it. -/
theorem runIn_eq (spec : Specification) (directory : String) (host : σ) :
    c.runIn h spec directory host =
      match h.writeFile (c.pathsIn directory).spec spec.text host with
      | (.error e, host) => (.error (.io e.message), host)
      | (.ok (), host) =>
        match removeStale h (c.pathsIn directory).output host with
        | (.error e, host) => (.error e, host)
        | (.ok (), host) => c.start h (c.pathsIn directory) host := rfl

/-- The only command that a run in a directory may launch is the engine's, for the paths there. -/
theorem notes_runIn (spec : Specification) (directory : String) :
    Notes (c.runIn h spec directory) (c.runIn h.watched spec directory) fun actions =>
      launches actions = [] ∨
        launches actions = [(c.command.substitute (c.pathsIn directory), c.timeoutSeconds)] := by
  intro log x
  let written : Action := .writeFile (c.pathsIn directory).spec spec.text
  rw [runIn_eq, runIn_eq, watched_writeFile]
  rcases h.writeFile (c.pathsIn directory).spec spec.text x with ⟨e | _, x₁⟩
  · exact ⟨[written], rfl, .inl rfl⟩
  obtain ⟨removal, hremoval, hnone⟩ :=
    notes_removeStale h (c.pathsIn directory).output (log ++ [written]) x₁
  dsimp only
  rw [hremoval]
  rcases removeStale h (c.pathsIn directory).output x₁ with ⟨e | _, x₂⟩
  · exact ⟨written :: removal, by simp [written],
      .inl (by simp [written, hnone])⟩
  obtain ⟨actions, hactions, hone⟩ :=
    notes_start c h (c.pathsIn directory) (log ++ [written] ++ removal) x₂
  exact ⟨written :: (removal ++ actions), by simpa using hactions,
    .inr (by simp [written, hnone, hone])⟩

/-- Under a root, the only command that a run may launch is the engine's. -/
def IsEngineRun (actions : List Action) : Prop :=
  launches actions = [] ∨ ∃ directory,
    launches actions = [(c.command.substitute (c.pathsIn directory), c.timeoutSeconds)]

theorem notes_runUnder (spec : Specification) (root : String) :
    Notes (c.runUnder h spec root) (c.runUnder h.watched spec root) fun actions =>
      (∃ rest, actions = .makeDirectories root :: rest) ∧ c.IsEngineRun actions := by
  intro log x
  rw [runUnder, runUnder, watched_makeDirectories]
  rcases h.makeDirectories root x with ⟨e | _, x₁⟩
  · exact ⟨[.makeDirectories root], rfl, ⟨[], rfl⟩, .inl rfl⟩
  dsimp only
  rw [watched_makeRunDirectory]
  rcases h.makeRunDirectory root x₁ with ⟨e | directory, x₂⟩
  · exact ⟨[.makeDirectories root, .makeRunDirectory root], by simp, ⟨_, rfl⟩, .inl rfl⟩
  obtain ⟨run, hrun, hone⟩ := c.notes_runIn h spec directory
    (log ++ [.makeDirectories root] ++ [.makeRunDirectory root]) x₂
  dsimp only
  rw [hrun]
  refine ⟨.makeDirectories root :: .makeRunDirectory root :: (run ++ [.removeTree directory]),
    by simp, ⟨_, rfl⟩, ?_⟩
  exact hone.imp (by simp) fun hone => ⟨directory, by simp [hone]⟩

end EngineConfig

end ZoneGuard
