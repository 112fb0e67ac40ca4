import Mathlib
import ZoneGuard.CommandLine.Arguments

/-!
# What arguments ask for

Each argument has its effect on what was given before it.  Lines of arguments that
give the options of the program, a command, its operand and one path among its
options are requests to run the command with these options.
-/

namespace ZoneGuard.CommandLine

/-! ## Single arguments -/

section

variable {options : List Switch} {room? : Option Nat} {g g' : Given} {argument value : String}
  {s : Switch} {rest : List String}

/-- The argument is the name of an option, and nothing more. -/
structure Names (options : List Switch) (argument : String) (s : Switch) : Prop where
  option : optionOf? options argument.toList = some (s, none)
  like : isOptionLike argument = true
  ne : argument ≠ "--"

theorem ne_of_isOptionLike_eq_false (h : isOptionLike argument = false) : argument ≠ "--" := by
  rintro rfl
  revert h
  decide

theorem collect_value (hname : Names options argument s) (htakes : s.kind.takesValue = true)
    (hsettled : g.settled = .ok g') (hvalue : isOptionLike value = false) :
    collect options room? g (argument :: value :: rest) =
      collect options room? { g' with pending? := some (s, value) } rest := by
  rw [collect.eq_def]
  simp [hname.option, hname.like, hname.ne, hsettled, htakes, hvalue, Bind.bind, Except.bind]

theorem collect_flag (hname : Names options argument s) (htakes : s.kind.takesValue = false)
    (hsettled : g.settled = .ok g') {g'' : Given} (hadd : g'.addOption s "" = .ok g'') :
    collect options room? g (argument :: rest) = collect options room? g'' rest := by
  rw [collect.eq_def]
  simp [hname.option, hname.like, hname.ne, hsettled, htakes, hadd, Bind.bind, Except.bind]

theorem collect_operand {room : Nat} (hlike : isOptionLike argument = false)
    (hadd : g.addOperands room [argument] = .ok g') :
    collect options (some room) g (argument :: rest) = collect options (some room) g' rest := by
  rw [collect, if_neg (ne_of_isOptionLike_eq_false hlike)]
  simp [hlike, hadd, Bind.bind, Except.bind]

/-- Among the leading options the first argument that is none ends them. -/
theorem collect_command (hlike : isOptionLike argument = false) :
    collect options none g (argument :: rest) = .ok (g, argument :: rest) := by
  rw [collect, if_neg (ne_of_isOptionLike_eq_false hlike)]
  simp [hlike, pure, Except.pure]

end

/-- A path that can stand for itself among arguments. -/
structure IsPlainPath (path : String) : Prop where
  ne_empty : path ≠ ""
  notOptionLike : isOptionLike path = false

theorem IsPlainPath.admits {path : String} (h : IsPlainPath path) :
    Kind.path.admits path = true := by
  simp [Kind.admits, h.ne_empty]

theorem settled_pending (options : List (String × String)) (operands : List String) (s : Switch)
    (value : String) :
    Given.settled ⟨options, operands, some (s, value)⟩ =
      Given.addOption ⟨options, operands, none⟩ s value := rfl

theorem addOption_eq_ok {g : Given} {s : Switch} {value : String}
    (hversion : s.kind ≠ .version) (hhelp : s.kind ≠ .help) (hadmits : s.kind.admits value = true)
    (hnew : g.options.lookup s.name = none) :
    g.addOption s value = .ok { g with options := g.options ++ [(s.name, value)] } := by
  rw [Given.addOption]
  split
  · contradiction
  · contradiction
  · simp [hadmits, hnew]

def Format.value : Format → String
  | .text => "text"
  | .json => "json"

def Options.arguments (o : Options) : List String :=
  ["--output", o.format.value] ++ (if o.quiet then ["--quiet"] else [])
    ++ (match o.config? with | some path => ["--config", path] | none => [])

/-- What is given with these arguments. -/
def Options.given (o : Options) : Given where
  options := [("output", o.format.value)] ++ (if o.quiet then [("quiet", "")] else [])
    ++ (match o.config? with | some path => [("config", path)] | none => [])

theorem collect_arguments_unconfigured (format : Format) (quiet : Bool) : ∃ before : Given,
    before.settled = .ok (Options.given ⟨format, quiet, none⟩) ∧
      ∀ rest, collect leadingOptions none {} (Options.arguments ⟨format, quiet, none⟩ ++ rest) =
        collect leadingOptions none before rest := by
  have hnone : Given.settled {} = .ok {} := rfl
  have houtput : Names leadingOptions "--output" outputOption := ⟨by decide, by decide, by decide⟩
  have hvalue : isOptionLike format.value = false := by cases format <;> decide
  have hadmits : outputOption.kind.admits format.value = true := by cases format <;> decide
  have hformat : Given.settled ⟨[], [], some (outputOption, format.value)⟩ =
      .ok ⟨[("output", format.value)], [], none⟩ := by
    rw [settled_pending, addOption_eq_ok (by decide) (by decide) hadmits rfl]
    rfl
  cases quiet with
  | false => exact ⟨_, hformat, fun rest => collect_value houtput rfl hnone hvalue⟩
  | true =>
      have hquiet : Names leadingOptions "--quiet" quietOption :=
        ⟨by decide, by decide, by decide⟩
      have hadd : Given.addOption ⟨[("output", format.value)], [], none⟩ quietOption "" =
          .ok (Options.given ⟨format, true, none⟩) := rfl
      refine ⟨Options.given ⟨format, true, none⟩, rfl, fun rest => ?_⟩
      exact (collect_value houtput rfl hnone hvalue).trans (collect_flag hquiet rfl hformat hadd)

/-- The options of the program are read in front of a command. -/
theorem collect_arguments (o : Options) (hconfig : ∀ path ∈ o.config?, IsPlainPath path)
    {command : String} (hcommand : isOptionLike command = false) (rest : List String) :
    ∃ before : Given, before.settled = .ok o.given ∧
      collect leadingOptions none {} (o.arguments ++ command :: rest) =
        .ok (before, command :: rest) := by
  obtain ⟨format, quiet, config?⟩ := o
  obtain ⟨before, hbefore, hcollect⟩ := collect_arguments_unconfigured format quiet
  cases config? with
  | none => exact ⟨before, hbefore, (hcollect _).trans (collect_command hcommand)⟩
  | some path =>
      have hpath := hconfig path rfl
      have hname : Names leadingOptions "--config" configOption :=
        ⟨by decide, by decide, by decide⟩
      have hsplit : Options.arguments ⟨format, quiet, some path⟩ ++ command :: rest =
          Options.arguments ⟨format, quiet, none⟩ ++ "--config" :: path :: command :: rest := by
        simp [Options.arguments]
      refine ⟨{ Options.given ⟨format, quiet, none⟩ with pending? := some (configOption, path) },
        ?_, ?_⟩
      · rw [settled_pending, addOption_eq_ok (by decide) (by decide) hpath.admits]
        · cases quiet <;> rfl
        · cases quiet <;> rfl
      · rw [hsplit, hcollect, collect_value hname rfl hbefore hpath.notOptionLike]
        exact collect_command hcommand

/-- Options in front of a command stand if none of them is given behind it. -/
theorem optionsOf_given (o : Options) {behind : Given}
    (houtput : behind.options.lookup "output" = none)
    (hquiet : behind.options.lookup "quiet" = none)
    (hconfig : behind.options.lookup "config" = none) : optionsOf o.given behind = o := by
  obtain ⟨format, quiet, config?⟩ := o
  simp only [optionsOf, valueOf?, houtput, hquiet, hconfig, Options.given]
  cases format <;> cases quiet <;> cases config? <;> simp [Format.value, List.lookup]

/-- A command with its operand and one of its options behind those of the program. -/
theorem ofArguments?_operand_path (o : Options) (hconfig : ∀ path ∈ o.config?, IsPlainPath path)
    (command : Subcommand) (hlike : isOptionLike command.name = false)
    (hcommand : Subcommand.ofName? command.name = some command) (hhelp : command.name ≠ "help")
    (hroom : command.operand?.toList.length = 1) {argument : String} {s : Switch}
    (hname : Names command.options argument s) (hkind : s.kind = .path) {operand path : String}
    (hoperand : IsPlainPath operand) (hpath : IsPlainPath path) :
    Request.ofArguments? (o.arguments ++ [command.name, operand, argument, path]) =
      (taskOf? command { options := [(s.name, path)], operands := [operand] }).map
        (.run (optionsOf o.given { options := [(s.name, path)], operands := [operand] })) := by
  obtain ⟨before, hbefore, hcollect⟩ := collect_arguments o hconfig hlike [operand, argument, path]
  have hadd : Given.addOperands 1 [operand] {} = .ok { operands := [operand] } := by
    simp [Given.addOperands, Given.settled, hoperand.ne_empty, Bind.bind, Except.bind, pure,
      Except.pure]
  have hbehind : collect command.options (some 1) {} [operand, argument, path] =
      .ok ({ options := [(s.name, path)], operands := [operand] }, []) := by
    rw [collect_operand hoperand.notOptionLike hadd,
      collect_value hname (by rw [hkind]; rfl) rfl hpath.notOptionLike, collect, settled_pending,
      addOption_eq_ok (by simp [hkind]) (by simp [hkind]) (by rw [hkind]; exact hpath.admits) rfl]
    rfl
  simp only [Request.ofArguments?, hcollect, hcommand, hhelp, if_false, Request.ofCommand?, hroom,
    hbehind, hbefore]
  cases taskOf? command _ <;> rfl

theorem ofArguments?_decode (o : Options) (hconfig : ∀ path ∈ o.config?, IsPlainPath path)
    {file graph : String} (hfile : IsPlainPath file) (hgraph : IsPlainPath graph) :
    Request.ofArguments? (o.arguments ++ ["decode", file, "--graph", graph]) =
      some (.run o (.decode file (some graph))) := by
  have hname : Names decodeCommand.options "--graph"
      ⟨"graph", none, .path, "Graph the result belongs to; produces a full report"⟩ :=
    ⟨by decide, by decide, by decide⟩
  refine (ofArguments?_operand_path o hconfig decodeCommand (by decide) (by decide)
    (by decide) rfl hname rfl hfile hgraph).trans ?_
  rw [optionsOf_given o rfl rfl rfl]
  rfl

theorem ofArguments?_check (o : Options) (hconfig : ∀ path ∈ o.config?, IsPlainPath path)
    {graph file : String} (hgraph : IsPlainPath graph) (hfile : IsPlainPath file) :
    Request.ofArguments? (o.arguments ++ ["check", graph, "--replay", file]) =
      some (.run o (.check graph (some file) none)) := by
  have hname : Names checkCommand.options "--replay"
      ⟨"replay", none, .path, "Use a recorded engine result instead of running the engine"⟩ :=
    ⟨by decide, by decide, by decide⟩
  refine (ofArguments?_operand_path o hconfig checkCommand (by decide) (by decide)
    (by decide) rfl hname rfl hgraph hfile).trans ?_
  rw [optionsOf_given o rfl rfl rfl]
  rfl

end ZoneGuard.CommandLine
