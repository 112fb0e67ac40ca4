import ZoneGuard.Proofs.Engine.Recording

/-!
# Preparation before the runs of an engine

What has to be prepared gates the calls of a session: each call tries the preparation until it has
succeeded once, and none after that; a call whose attempt fails does nothing else, and the engine
runs only behind a preparation that succeeded.  This holds for all hosts, so for all outcomes of the
commands.
-/

namespace ZoneGuard

/-! ## Calls -/

/-- A call of a session: what it answers, and what it does on the host. -/
structure Call where
  result : Except EngineError EngineOutput
  actions : List Action

namespace Call

/-- The command that a call begins with, its time limit, and what became of it.  A run of the engine
begins with a directory, so only the preparation can come first. -/
def attempt? (call : Call) : Option (Command × Nat × Completion) :=
  match call.actions with
  | .launch command seconds completion :: _ => some (command, seconds, completion)
  | _ => none

/-- What a call does behind the attempt. -/
def run (call : Call) : List Action :=
  match call.actions with
  | .launch .. :: rest => rest
  | actions => actions

/-- The call begins with a command that succeeds. -/
def Prepares (call : Call) : Prop :=
  ∃ command seconds completion,
    call.attempt? = some (command, seconds, completion) ∧ completion.isSuccess

end Call

namespace EngineConfig

section

variable {σ : Type} (c : EngineConfig) (h : Host σ) (temporary : String)

/-- A call on a watched host, and the session after it. -/
def call (spec : Specification) (s : Session σ) : Call × Session σ :=
  let (result, after) := c.solve h.watched temporary spec ⟨s.isPrepared, [], s.host⟩
  (⟨result, after.host.1⟩, ⟨after.isPrepared, after.host.2⟩)

/-- The calls for specifications one after the other, and the session after them. -/
def calls : List Specification → Session σ → List Call × Session σ
  | [], s => ([], s)
  | spec :: specs, s =>
    let (call, s) := c.call h temporary spec s
    let (later, s) := calls specs s
    (call :: later, s)

end

/-! ## The gate -/

variable (c : EngineConfig) (p : Command) (root : String)

/-- The preparation gates the calls of a new session. -/
structure Gates (calls : List Call) : Prop where
  /-- Each call tries the preparation until it has succeeded once, and none after that. -/
  attempts : ∀ earlier call later, calls = earlier ++ call :: later →
    (call.attempt?.isSome ↔ ∀ e ∈ earlier, ¬ e.Prepares)
  /-- What is tried is the preparation. -/
  attempted : ∀ call ∈ calls, ∀ command seconds completion,
    call.attempt? = some (command, seconds, completion) → command = p ∧ seconds = c.timeoutSeconds
  /-- A call whose attempt fails reports that and does nothing else. -/
  blocked : ∀ call ∈ calls, call.attempt?.isSome → ¬ call.Prepares →
    (∃ detail, call.result = .error (.prepare detail)) ∧ call.run = []
  /-- There is a run exactly in the calls at or behind a preparation that succeeded. -/
  gated : ∀ earlier call later, calls = earlier ++ call :: later →
    (call.run ≠ [] ↔ ∃ e ∈ earlier ++ [call], e.Prepares)
  /-- A run begins with the directory for runs, and launches the engine or nothing. -/
  run : ∀ call ∈ calls, call.run ≠ [] →
    (∃ rest, call.run = .makeDirectories root :: rest) ∧ c.IsEngineRun call.run

/-- What a call may do; the first flag tells whether the preparation has succeeded before the call,
and the second whether it has after it. -/
inductive Passes : Bool → Call → Bool → Prop
  | blocked {completion : Completion} {detail : String} :
    ¬ completion.isSuccess →
    Passes false ⟨.error (.prepare detail), [.launch p c.timeoutSeconds completion]⟩ false
  | prepared {completion : Completion} {result} {rest : List Action} :
    completion.isSuccess → c.IsEngineRun (.makeDirectories root :: rest) →
    Passes false
      ⟨result, .launch p c.timeoutSeconds completion :: .makeDirectories root :: rest⟩ true
  | behind {result} {rest : List Action} :
    c.IsEngineRun (.makeDirectories root :: rest) →
    Passes true ⟨result, .makeDirectories root :: rest⟩ true

/-- Calls one after the other, from a session that is prepared or not. -/
inductive Chain : Bool → List Call → Prop
  | nil {b} : Chain b []
  | cons {b b' call calls} : c.Passes p root b call b' → Chain b' calls → Chain b (call :: calls)

variable {c p root}

/-- A call leaves the session prepared exactly if it was before or the call prepares it. -/
theorem Passes.after_iff {b b' : Bool} {call : Call} (hpass : c.Passes p root b call b') :
    b' = true ↔ b = true ∨ call.Prepares := by
  cases hpass with
  | blocked hfail => simpa [Call.Prepares, Call.attempt?] using hfail
  | prepared hsuccess => simpa [Call.Prepares, Call.attempt?] using hsuccess
  | behind => simp

/-- The call between earlier and later ones is made in a prepared session exactly if an earlier call
prepared it. -/
theorem Chain.passes {b : Bool} {call : Call} {later : List Call} :
    ∀ {earlier : List Call}, c.Chain p root b (earlier ++ call :: later) →
      ∃ before after, c.Passes p root before call after ∧
        (before = true ↔ b = true ∨ ∃ e ∈ earlier, e.Prepares)
  | [], .cons hpass _ => ⟨_, _, hpass, by simp⟩
  | first :: earlier, .cons hfirst hchain => by
    obtain ⟨before, after, hpass, hbefore⟩ := Chain.passes hchain
    exact ⟨before, after, hpass, by simp [hbefore, hfirst.after_iff, or_assoc]⟩

/-- What a chain lets pass, for the calls as a whole. -/
theorem Chain.gates {calls : List Call} (hchain : c.Chain p root false calls) :
    c.Gates p root calls := by
  have passes_of_mem : ∀ call ∈ calls, ∃ before after, c.Passes p root before call after := by
    intro call hcall
    obtain ⟨earlier, later, rfl⟩ := List.append_of_mem hcall
    obtain ⟨before, after, hpass, -⟩ := hchain.passes
    exact ⟨before, after, hpass⟩
  constructor
  case attempts =>
    rintro earlier call later rfl
    obtain ⟨before, after, hpass, hbefore⟩ := hchain.passes
    cases hpass <;> simp_all [Call.attempt?]
  case attempted =>
    intro call hcall command seconds completion hattempt
    obtain ⟨before, after, hpass⟩ := passes_of_mem call hcall
    cases hpass <;> simp_all [Call.attempt?]
  case blocked =>
    intro call hcall hattempt hfail
    obtain ⟨before, after, hpass⟩ := passes_of_mem call hcall
    cases hpass with
    | blocked => exact ⟨⟨_, rfl⟩, rfl⟩
    | prepared hsuccess => exact absurd ⟨_, _, _, rfl, hsuccess⟩ hfail
    | behind => simp [Call.attempt?] at hattempt
  case gated =>
    rintro earlier call later rfl
    obtain ⟨before, after, hpass, hbefore⟩ := hchain.passes
    have hafter : after = true ↔ ∃ e ∈ earlier ++ [call], e.Prepares := by
      simp [hpass.after_iff, hbefore, or_and_right, exists_or]
    rw [← hafter]
    cases hpass <;> simp [Call.run]
  case run =>
    intro call hcall hrun
    obtain ⟨before, after, hpass⟩ := passes_of_mem call hcall
    cases hpass with
    | blocked => simp [Call.run] at hrun
    | prepared _ hengine => exact ⟨⟨_, rfl⟩, hengine⟩
    | behind hengine => exact ⟨⟨_, rfl⟩, hengine⟩

/-! ## Calls on a host -/

section

variable {σ : Type} (h : Host σ) (temporary : String)

variable (c) in
/-- A preparation has no fault exactly if the command succeeded. -/
theorem preparationFault?_eq_none_iff (program : String) (completion : Completion) :
    c.preparationFault? program completion = none ↔ completion.isSuccess := by
  cases completion with
  | notStarted | timedOut => simp [preparationFault?, resultOf, Completion.isSuccess]
  | finished status? =>
    by_cases hstatus : status? = some 0 <;>
      simp [preparationFault?, Completion.isSuccess, hstatus]

theorem exists_prepare_of_preparationFault? {program : String} {completion : Completion}
    {e : EngineError} (he : c.preparationFault? program completion = some e) :
    ∃ detail, e = .prepare detail := by
  cases completion with
  | notStarted | timedOut => exact ⟨_, (Option.some.inj he).symm⟩
  | finished status? =>
    rw [preparationFault?] at he
    split_ifs at he
    exact ⟨_, (Option.some.inj he).symm⟩

/-- A call in a prepared session only runs the engine. -/
theorem solve_of_isPrepared (hp : c.prepare? = some p) (hfault : c.fault? = none)
    (spec : Specification) (x : σ) :
    c.solve h temporary spec ⟨true, x⟩ =
      ((c.runUnder h spec (c.workRoot temporary) x).1,
        ⟨true, (c.runUnder h spec (c.workRoot temporary) x).2⟩) := by
  simp [solve, hfault, prepareSession, hp]

/-- Behind a preparation that succeeds, a call goes on as in a prepared session. -/
theorem solve_of_isSuccess (hp : c.prepare? = some p) (hfault : c.fault? = none)
    (spec : Specification) {x y : σ} {completion : Completion}
    (hlaunch : h.launch p c.timeoutSeconds x = (completion, y)) (hsuccess : completion.isSuccess) :
    c.solve h temporary spec ⟨false, x⟩ = c.solve h temporary spec ⟨true, y⟩ := by
  have hnone := (c.preparationFault?_eq_none_iff p.program completion).2 hsuccess
  simp [solve, hfault, prepareSession, hp, hlaunch, hnone]

/-- A preparation that fails ends a call. -/
theorem solve_of_preparationFault? (hp : c.prepare? = some p) (hfault : c.fault? = none)
    (spec : Specification) {x y : σ} {completion : Completion} {e : EngineError}
    (hlaunch : h.launch p c.timeoutSeconds x = (completion, y))
    (he : c.preparationFault? p.program completion = some e) :
    c.solve h temporary spec ⟨false, x⟩ = (.error e, ⟨false, y⟩) := by
  simp [solve, hfault, prepareSession, hp, hlaunch, he]

/-- Watched, a call does what it does else, and it passes the gate. -/
theorem call_spec (hp : c.prepare? = some p) (hfault : c.fault? = none) (spec : Specification)
    (s : Session σ) :
    ((c.call h temporary spec s).1.result, (c.call h temporary spec s).2) =
        c.solve h temporary spec s ∧
      c.Passes p (c.workRoot temporary) s.isPrepared (c.call h temporary spec s).1
        (c.call h temporary spec s).2.isPrepared := by
  obtain ⟨isPrepared, x⟩ := s
  have hrun := c.notes_runUnder h spec (c.workRoot temporary)
  rw [call]
  cases isPrepared with
  | true =>
    obtain ⟨actions, hactions, ⟨rest, rfl⟩, hengine⟩ := hrun [] x
    rw [solve_of_isPrepared _ _ hp hfault, solve_of_isPrepared _ _ hp hfault, hactions]
    exact ⟨rfl, .behind hengine⟩
  | false =>
    obtain ⟨⟨completion, y⟩, hlaunch⟩ : ∃ o, h.launch p c.timeoutSeconds x = o := ⟨_, rfl⟩
    have hwatched : h.watched.launch p c.timeoutSeconds ([], x) =
        (completion, [.launch p c.timeoutSeconds completion], y) := by
      simp [hlaunch]
    cases hfailed : c.preparationFault? p.program completion with
    | some e =>
      obtain ⟨detail, rfl⟩ := exists_prepare_of_preparationFault? hfailed
      have hfail : ¬ completion.isSuccess := fun hsuccess => by
        simp [(c.preparationFault?_eq_none_iff ..).2 hsuccess] at hfailed
      rw [solve_of_preparationFault? _ _ hp hfault _ hlaunch hfailed,
        solve_of_preparationFault? _ _ hp hfault _ hwatched hfailed]
      exact ⟨rfl, .blocked hfail⟩
    | none =>
      have hsuccess := (c.preparationFault?_eq_none_iff ..).1 hfailed
      obtain ⟨actions, hactions, ⟨rest, rfl⟩, hengine⟩ :=
        hrun [.launch p c.timeoutSeconds completion] y
      rw [solve_of_isSuccess _ _ hp hfault _ hlaunch hsuccess,
        solve_of_isSuccess _ _ hp hfault _ hwatched hsuccess,
        solve_of_isPrepared _ _ hp hfault, solve_of_isPrepared _ _ hp hfault, hactions]
      exact ⟨rfl, .prepared hsuccess hengine⟩

/-- Watched, calls one after the other do what they do else, and they pass the gate in turn. -/
theorem calls_spec (hp : c.prepare? = some p) (hfault : c.fault? = none) :
    ∀ (specs : List Specification) (s : Session σ),
      ((c.calls h temporary specs s).1.map Call.result, (c.calls h temporary specs s).2) =
          c.solveAll h temporary specs s ∧
        c.Chain p (c.workRoot temporary) s.isPrepared (c.calls h temporary specs s).1
  | [], _ => ⟨rfl, .nil⟩
  | spec :: specs, s => by
    obtain ⟨hcall, hpass⟩ := call_spec h temporary hp hfault spec s
    obtain ⟨hcalls, hchain⟩ := calls_spec hp hfault specs (c.call h temporary spec s).2
    rw [solveAll, ← hcall]
    dsimp only
    rw [← hcalls]
    exact ⟨rfl, .cons hpass hchain⟩

/-- With a configuration that is not usable, calls do nothing. -/
theorem calls_of_fault? {fault : ConfigFault} (hfault : c.fault? = some fault) :
    ∀ (specs : List Specification) (s : Session σ),
      c.calls h temporary specs s = (specs.map fun _ => ⟨.error (.config fault.message), []⟩, s)
  | [], _ => rfl
  | spec :: specs, s => by
    have hcall : c.call h temporary spec s = (⟨.error (.config fault.message), []⟩, s) := by
      rw [call, solve, hfault]
    rw [calls, hcall]
    dsimp only
    rw [calls_of_fault? hfault specs s]
    rfl

/-- With an unusable configuration every call fails, and nothing is done. -/
theorem solveAll_of_fault? {fault : ConfigFault} (hfault : c.fault? = some fault) :
    ∀ (specs : List Specification) (s : Session σ),
      c.solveAll h temporary specs s = (specs.map fun _ => .error (.config fault.message), s)
  | [], _ => rfl
  | spec :: specs, s => by
    rw [solveAll, solve, hfault]
    dsimp only
    rw [solveAll_of_fault? hfault specs s]
    rfl

/-- The preparation gates the calls of a new session, whatever becomes of the commands.  With a
configuration that is not usable there is no call that does anything. -/
theorem preparation_gates_calls (hp : c.prepare? = some p) (specs : List Specification) (x : σ) :
    ((c.calls h temporary specs { host := x }).1.map Call.result,
        (c.calls h temporary specs { host := x }).2) = c.solveAll h temporary specs { host := x } ∧
      match c.fault? with
      | some fault =>
        c.calls h temporary specs { host := x } =
          (specs.map fun _ => ⟨.error (.config fault.message), []⟩, { host := x })
      | none => c.Gates p (c.workRoot temporary) (c.calls h temporary specs { host := x }).1 := by
  cases hfault : c.fault? with
  | some fault =>
    have hcalls := calls_of_fault? h temporary hfault specs { host := x }
    refine ⟨?_, hcalls⟩
    rw [hcalls, solveAll_of_fault? h temporary hfault]
    simp
  | none =>
    obtain ⟨heq, hchain⟩ := calls_spec h temporary hp hfault specs { host := x }
    exact ⟨heq, hchain.gates⟩

end

end EngineConfig

/-! ## A session with retries -/

/-- A host where the commands end as the list says, and where all else succeeds. -/
def Host.scripted : Host (List Completion) where
  makeDirectories _ outcomes := (.ok (), outcomes)
  makeRunDirectory root outcomes := (.ok (Files.join root "run"), outcomes)
  removeTree _ outcomes := outcomes
  writeFile _ _ outcomes := (.ok (), outcomes)
  removeFile _ outcomes := (.ok (), outcomes)
  readText _ outcomes := (.ok "", outcomes)
  launch _ _ outcomes := (outcomes.headD .timedOut, outcomes.tail)

/-- Five calls: the preparation does not start, times out, and fails before it succeeds; the engine
is then killed in the fourth call and succeeds in the fifth. -/
def retriedCalls : List Call :=
  (EngineConfig.calls { prepare? := some ⟨"make", []⟩ } Host.scripted "/tmp"
    (List.replicate 5 ⟨"sig A"⟩)
    { host := [.notStarted .notFound, .timedOut, .finished (some 1) [] [], .finished (some 0) [] [],
        .finished none [] [], .finished (some 0) [] []] }).1

theorem preparation_gates_calls_retried :
    let c : EngineConfig := { prepare? := some ⟨"make", []⟩ }
    c.prepare? = some ⟨"make", []⟩ ∧
      retriedCalls.map (fun call => (call.attempt?.isSome, call.run.isEmpty)) =
        [(true, true), (true, true), (true, true), (true, false), (false, false)] ∧
      c.Gates ⟨"make", []⟩ (c.workRoot "/tmp") retriedCalls := by
  intro c
  refine ⟨rfl, by decide +kernel, ?_⟩
  have hgates := (EngineConfig.preparation_gates_calls Host.scripted "/tmp"
    (c := c) (p := ⟨"make", []⟩) rfl (List.replicate 5 ⟨"sig A"⟩)
    [.notStarted .notFound, .timedOut, .finished (some 1) [] [], .finished (some 0) [] [],
        .finished none [] [], .finished (some 0) [] []]).2
  rw [show c.fault? = none by decide +kernel] at hgates
  exact hgates

end ZoneGuard
