import Mathlib
import ZoneGuard.Engine.Session
import ZoneGuard.Proofs.Text.ReplacementInTurn

/-!
# Placeholders in the arguments of a command

The placeholders for the paths of a run are replaced one kind after the other, so a path may
itself be taken for a placeholder, or with the characters beside it make one.  That depends
on the path of the specification and that of the output alone: if neither can be part of a
placeholder that is replaced later, every argument has its own placeholders replaced and
nothing else.
-/

namespace ZoneGuard

open Text (replaceEach replaceInTurn replacements patternCount occurrences Completes IsMarked
  IsTable AreApart)

/-- Where the path of the specification is wanted. -/
def specPlaceholder : List Char := "\x7bspec\x7d".toList

def outputPlaceholder : List Char := "\x7boutput\x7d".toList

def directoryPlaceholder : List Char := "\x7bworkdir\x7d".toList

namespace RunPaths

/-- The placeholders for files, each with what it stands for. -/
def fileTable (paths : RunPaths) : List (List Char × List Char) :=
  [(specPlaceholder, paths.spec.toList), (outputPlaceholder, paths.output.toList)]

/-- All placeholders in the order of their turns. -/
def table (paths : RunPaths) : List (List Char × List Char) :=
  paths.fileTable ++ [(directoryPlaceholder, paths.directory.toList)]

/-- The argument with its placeholders replaced in one pass.  What they stand for is taken as
it is. -/
def expand (paths : RunPaths) (argument : String) : String :=
  String.ofList (replaceEach paths.table argument.toList)

/-- More is replaced than the placeholders of the argument: text that comes from a path is
expanded again. -/
def Reexpands (paths : RunPaths) (argument : String) : Prop :=
  patternCount paths.table argument.toList < replacements paths.table argument.toList

theorem isMarked_placeholders :
    IsMarked '\x7b' specPlaceholder ∧ IsMarked '\x7b' outputPlaceholder ∧
      IsMarked '\x7b' directoryPlaceholder :=
  ⟨⟨"spec\x7d".toList, by decide, by decide⟩, ⟨"output\x7d".toList, by decide, by decide⟩,
    ⟨"workdir\x7d".toList, by decide, by decide⟩⟩

/-- The placeholders are patterns of which none begins another. -/
theorem isTable_table (paths : RunPaths) : IsTable '\x7b' paths.table where
  marked := by
    obtain ⟨hspec, houtput, hdirectory⟩ := isMarked_placeholders
    simp [table, fileTable, hspec, houtput, hdirectory]
  apart := by
    have houtput : ¬ specPlaceholder <+: outputPlaceholder ∧
        ¬ outputPlaceholder <+: specPlaceholder := by decide
    have hdirectory : ¬ specPlaceholder <+: directoryPlaceholder ∧
        ¬ directoryPlaceholder <+: specPlaceholder := by decide
    have hlast : ¬ outputPlaceholder <+: directoryPlaceholder ∧
        ¬ directoryPlaceholder <+: outputPlaceholder := by decide
    simp [table, fileTable, AreApart, houtput, hdirectory, hlast]

/-- The three replacements of a command, one after the other. -/
theorem substitute_eq (paths : RunPaths) (argument : String) :
    paths.substitute argument = String.ofList (replaceInTurn paths.table argument.toList) := by
  simp only [substitute, Text.replace, String.toList_ofList]
  rfl

/-- An argument of which no more is replaced than its placeholders comes to what one pass
makes of it. -/
theorem substitute_eq_expand {paths : RunPaths} {argument : String}
    (h : ¬ paths.Reexpands argument) : paths.substitute argument = paths.expand argument := by
  have hle := paths.isTable_table.patternCount_le_replacements argument.toList
  rw [substitute_eq, expand,
    paths.isTable_table.replaceInTurn_eq_replaceEach (Nat.le_antisymm (Nat.not_lt.1 h) hle)]

/-- No path of a run can be part of a placeholder that is replaced after its own. -/
structure IsInert (paths : RunPaths) : Prop where
  spec_output : ¬ Completes paths.spec.toList outputPlaceholder
  spec_directory : ¬ Completes paths.spec.toList directoryPlaceholder
  output_directory : ¬ Completes paths.output.toList directoryPlaceholder

/-- No argument is expanded twice exactly if the paths are inert. -/
theorem forall_not_reexpands_iff (paths : RunPaths) :
    (∀ argument, ¬ paths.Reexpands argument) ↔ paths.IsInert := by
  have hcounts : (∀ argument, ¬ paths.Reexpands argument) ↔
      ∀ cs, replacements paths.table cs = patternCount paths.table cs := by
    constructor
    · intro h cs
      have hnot := h (String.ofList cs)
      rw [Reexpands, String.toList_ofList] at hnot
      exact Nat.le_antisymm (Nat.not_lt.1 hnot)
        (paths.isTable_table.patternCount_le_replacements cs)
    · intro h argument hlt
      exact hlt.ne (h argument.toList).symm
  rw [hcounts, paths.isTable_table.forall_replacements_eq_iff]
  constructor
  · intro h
    simp only [table, fileTable, List.cons_append, List.nil_append, List.pairwise_cons,
      List.mem_cons, List.not_mem_nil, or_false, forall_eq_or_imp, forall_eq] at h
    exact ⟨h.1.1, h.1.2, h.2.1⟩
  · intro h
    simp [table, fileTable, h.spec_output, h.spec_directory, h.output_directory]

/-- For the paths of the files alone: arguments come out as one pass makes them, whatever the
directory is, if no path completes a later placeholder or that placeholder stands for itself. -/
theorem forall_substitute_eq_iff (paths : RunPaths) :
    (∀ directory argument, { paths with directory }.substitute argument =
        { paths with directory }.expand argument) ↔
      (paths.output.toList = outputPlaceholder ∨
        ¬ Completes paths.spec.toList outputPlaceholder) ∧
      ¬ Completes paths.spec.toList directoryPlaceholder ∧
      ¬ Completes paths.output.toList directoryPlaceholder := by
  have htable : IsTable '\x7b' (paths.fileTable ++ [(directoryPlaceholder, _)]) :=
    paths.isTable_table
  have hlists : (∀ directory argument, { paths with directory }.substitute argument =
        { paths with directory }.expand argument) ↔
      ∀ value cs, replaceInTurn (paths.fileTable ++ [(directoryPlaceholder, value)]) cs =
        replaceEach (paths.fileTable ++ [(directoryPlaceholder, value)]) cs := by
    simp only [substitute_eq, expand, String.ofList_inj]
    constructor
    · intro h value cs
      have hvalue := h (String.ofList value) (String.ofList cs)
      rwa [String.toList_ofList, table, String.toList_ofList] at hvalue
    · exact fun h directory argument => h directory.toList argument.toList
  have hfiles : (∀ cs, replaceInTurn paths.fileTable cs = replaceEach paths.fileTable cs) ↔
      paths.output.toList = outputPlaceholder ∨
        ¬ Completes paths.spec.toList outputPlaceholder := by
    have hturn (cs : List Char) : replaceInTurn paths.fileTable cs =
        Text.replaceAll outputPlaceholder paths.output.toList
          (replaceEach [(specPlaceholder, paths.spec.toList)] cs) :=
      congrArg _ (Text.replaceAll_eq_replaceEach specPlaceholder paths.spec.toList cs)
    have hfileTable : IsTable '\x7b' ([(specPlaceholder, paths.spec.toList)] ++
        [(outputPlaceholder, paths.output.toList)]) := htable.init
    simp only [hturn]
    simpa [fileTable] using hfileTable.forall_replaceAll_replaceEach_iff
  rw [hlists, htable.forall_replaceInTurn_iff, hfiles]
  simp [fileTable]

/-- The path has a separator and no bracket. -/
def IsOrdinary (path : String) : Prop :=
  '/' ∈ path.toList ∧ '\x7b' ∉ path.toList ∧ '\x7d' ∉ path.toList

/-- Ordinary paths are safe. -/
theorem isInert_of_isOrdinary {paths : RunPaths} (hspec : IsOrdinary paths.spec)
    (houtput : IsOrdinary paths.output) : paths.IsInert where
  spec_output := Text.not_completes_of_mem "output".toList hspec.1 (by decide)
    hspec.2.1 hspec.2.2
  spec_directory := Text.not_completes_of_mem "workdir".toList hspec.1 (by decide)
    hspec.2.1 hspec.2.2
  output_directory := Text.not_completes_of_mem "workdir".toList houtput.1 (by decide)
    houtput.2.1 houtput.2.2

/-- The arguments of a command have their own placeholders replaced, and all else stays, as
long as nothing is expanded again.  For all arguments that is so exactly if no path of a file
can be part of a placeholder with a later turn, as it is for ordinary paths. -/
theorem substitute_simultaneous_iff (paths : RunPaths) :
    (∀ c : Command, (∀ argument ∈ c.arguments, ¬ paths.Reexpands argument) →
      (c.substitute paths).arguments = c.arguments.map paths.expand) ∧
    ((∀ argument, ¬ paths.Reexpands argument) ↔ paths.IsInert) ∧
    (IsOrdinary paths.spec → IsOrdinary paths.output → paths.IsInert) ∧
    ((∀ directory argument, { paths with directory }.substitute argument =
        { paths with directory }.expand argument) ↔
      (paths.output.toList = outputPlaceholder ∨
        ¬ Completes paths.spec.toList outputPlaceholder) ∧
      ¬ Completes paths.spec.toList directoryPlaceholder ∧
      ¬ Completes paths.output.toList directoryPlaceholder) :=
  ⟨fun _ h => List.map_congr_left fun argument hargument =>
      substitute_eq_expand (h argument hargument),
    paths.forall_not_reexpands_iff, isInert_of_isOrdinary, paths.forall_substitute_eq_iff⟩

/-- Paths with brackets that are safe all the same, in a directory that is spelled like a
placeholder. -/
def bracketedPaths : RunPaths :=
  ⟨"/w/\x7bout/a.als", "/w/\x7bout/a.xml", "\x7bspec\x7d"⟩

/-- Arguments in which placeholders stand alone, side by side and within another. -/
def bracketedCommand : Command where
  program := "sh"
  arguments := ["--in=\x7bspec\x7d\x7boutput\x7d", "\x7b\x7bworkdir\x7doutput\x7d", "plain"]

theorem substitute_simultaneous_iff_bracketedPaths :
    (∀ argument ∈ bracketedCommand.arguments, ¬ bracketedPaths.Reexpands argument) ∧
      (bracketedCommand.substitute bracketedPaths).arguments =
        ["--in=/w/\x7bout/a.als/w/\x7bout/a.xml", "\x7b\x7bspec\x7doutput\x7d", "plain"] := by
  obtain ⟨harguments, hinert, -⟩ := substitute_simultaneous_iff bracketedPaths
  have hnone := hinert.2 ⟨by decide +kernel, by decide +kernel, by decide +kernel⟩
  refine ⟨fun argument _ => hnone argument, ?_⟩
  rw [harguments bracketedCommand fun argument _ => hnone argument]
  decide +kernel

/-- The paths of a run in a directory with the name of a placeholder. -/
def nestedPaths : RunPaths := ({} : EngineConfig).pathsIn "/w/\x7boutput\x7d"

/-- The argument asks for the path of the specification, and is given that path with the one
of the output in the middle of it. -/
theorem substitute_ne_expand_nestedPaths :
    (Command.substitute ⟨"sh", ["\x7bspec\x7d"]⟩ nestedPaths).arguments =
        ["/w//w/\x7boutput\x7d/spec.xml/spec.als"] ∧
      ["\x7bspec\x7d"].map nestedPaths.expand = ["/w/\x7boutput\x7d/spec.als"] ∧
      nestedPaths.Reexpands "\x7bspec\x7d" := by
  refine ⟨by decide +kernel, by decide +kernel, ?_⟩
  unfold Reexpands
  decide +kernel

end RunPaths

end ZoneGuard
