import Mathlib
import ZoneGuard.Engine.Session
import ZoneGuard.Proofs.Files.EntryName

/-!
# The files of a run

An engine is given two files in the directory of its run.  A configuration is usable if
each file setting spells an entry of a directory and the two settings are not the same
text.  Without separators the settings are names, so they stand for two files.  With
separators behind a name they need not, since one entry has many spellings.
-/

namespace ZoneGuard.EngineConfig

open Files (IsEntryName SpellsEntry components)

variable {c : EngineConfig}

/-- A configuration is accepted exactly if both names are plain and differ. -/
theorem fault?_eq_none_iff : c.fault? = none ↔
    Files.isPlainName c.specFile = true ∧ Files.isPlainName c.outputFile = true ∧
      c.specFile ≠ c.outputFile := by
  unfold fault?
  split
  · next hspec => simp_all
  · split
    · next houtput => simp_all
    · split <;> simp_all

/-- The files of a run lie directly in its directory. -/
theorem components_pathsIn (directory : String) {spec output : String}
    (hspec : SpellsEntry c.specFile spec) (houtput : SpellsEntry c.outputFile output) :
    components (c.pathsIn directory).spec = components directory ++ [.name spec] ∧
      components (c.pathsIn directory).output = components directory ++ [.name output] :=
  ⟨Files.components_join directory hspec, Files.components_join directory houtput⟩

/-- What is promised of the files of a run: the settings are names, and in any directory
they stand for two of its entries. -/
structure NamesTwoFiles (c : EngineConfig) : Prop where
  specFile : IsEntryName c.specFile
  outputFile : IsEntryName c.outputFile
  spec : ∀ directory,
    components (c.pathsIn directory).spec = components directory ++ [.name c.specFile]
  output : ∀ directory,
    components (c.pathsIn directory).output = components directory ++ [.name c.outputFile]
  apart : ∀ directory,
    components (c.pathsIn directory).spec ≠ components (c.pathsIn directory).output

/-- Names that are not the same stand for two files. -/
theorem namesTwoFiles_of_ne (hspec : IsEntryName c.specFile) (houtput : IsEntryName c.outputFile)
    (hne : c.specFile ≠ c.outputFile) : c.NamesTwoFiles := by
  have hpaths := fun directory =>
    components_pathsIn (c := c) directory hspec.spellsEntry houtput.spellsEntry
  refine ⟨hspec, houtput, fun directory => (hpaths directory).1,
    fun directory => (hpaths directory).2, fun directory heq => hne ?_⟩
  rw [(hpaths directory).1, (hpaths directory).2] at heq
  simpa using heq

/-- A configuration is usable if its settings are different spellings of entries, be
these two or one.  What the files of a run are is told by the names that are spelled,
and the promise is kept if the settings have no separators. -/
theorem fault?_eq_none_iff_spellsEntry (c : EngineConfig) :
    (c.fault? = none ↔ c.specFile ≠ c.outputFile ∧
      ∃ spec output, SpellsEntry c.specFile spec ∧ SpellsEntry c.outputFile output) ∧
    (∀ spec output, SpellsEntry c.specFile spec → SpellsEntry c.outputFile output →
      ∀ directory,
        components (c.pathsIn directory).spec = components directory ++ [.name spec] ∧
        components (c.pathsIn directory).output = components directory ++ [.name output] ∧
        (components (c.pathsIn directory).spec = components (c.pathsIn directory).output ↔
          spec = output)) ∧
    (c.NamesTwoFiles ↔
      c.fault? = none ∧ '/' ∉ c.specFile.toList ∧ '/' ∉ c.outputFile.toList) := by
  have husable : c.fault? = none ↔ c.specFile ≠ c.outputFile ∧
      ∃ spec output, SpellsEntry c.specFile spec ∧ SpellsEntry c.outputFile output := by
    rw [fault?_eq_none_iff, Files.isPlainName_iff, Files.isPlainName_iff]
    constructor
    · rintro ⟨⟨spec, hspec⟩, ⟨output, houtput⟩, hne⟩
      exact ⟨hne, spec, output, hspec, houtput⟩
    · rintro ⟨hne, spec, output, hspec, houtput⟩
      exact ⟨⟨spec, hspec⟩, ⟨output, houtput⟩, hne⟩
  refine ⟨husable, fun spec output hspec houtput directory => ?_, ?_⟩
  · obtain ⟨hspecPath, houtputPath⟩ := components_pathsIn directory hspec houtput
    refine ⟨hspecPath, houtputPath, ?_⟩
    rw [hspecPath, houtputPath]
    simp
  · constructor
    · intro h
      refine ⟨husable.2 ⟨?_, _, _, h.specFile.spellsEntry, h.outputFile.spellsEntry⟩,
        h.specFile.separator_notMem, h.outputFile.separator_notMem⟩
      intro heq
      refine h.apart "" ?_
      rw [pathsIn, heq]
    · rintro ⟨hfault, hspecNone, houtputNone⟩
      obtain ⟨hne, spec, output, hspec, houtput⟩ := husable.1 hfault
      obtain rfl := hspec.eq_of_notMem hspecNone
      obtain rfl := houtput.eq_of_notMem houtputNone
      exact namesTwoFiles_of_ne hspec.1 houtput.1 hne

/-- Two settings, each with something behind the name of an entry. -/
def paddedConfig : EngineConfig := { specFile := "a/.", outputFile := "b//" }

theorem fault?_eq_none_iff_spellsEntry_paddedConfig :
    paddedConfig.fault? = none ∧ SpellsEntry "a/." "a" ∧ SpellsEntry "b//" "b" ∧
      (∀ directory,
        components (paddedConfig.pathsIn directory).spec = components directory ++ [.name "a"] ∧
        components (paddedConfig.pathsIn directory).output = components directory ++ [.name "b"] ∧
        (components (paddedConfig.pathsIn directory).spec =
          components (paddedConfig.pathsIn directory).output ↔ "a" = "b")) ∧
      ¬ paddedConfig.NamesTwoFiles := by
  have hspec : SpellsEntry "a/." "a" := Files.components_eq_singleton_iff.1 (by decide)
  have houtput : SpellsEntry "b//" "b" := Files.components_eq_singleton_iff.1 (by decide)
  obtain ⟨husable, hpaths, hnames⟩ := fault?_eq_none_iff_spellsEntry paddedConfig
  exact ⟨husable.2 ⟨by decide, _, _, hspec, houtput⟩, hspec, houtput,
    hpaths "a" "b" hspec houtput, fun h => (hnames.1 h).2.1 (by decide)⟩

/-- Two settings that are spelled differently. -/
def aliasedConfig : EngineConfig := { specFile := "a/", outputFile := "a" }

/-- The configuration is usable although one setting has a separator, and both stand for
one entry, whatever the directory of the run. -/
theorem usable_aliasedConfig :
    aliasedConfig.fault? = none ∧ '/' ∈ aliasedConfig.specFile.toList ∧
      ∀ directory, components (aliasedConfig.pathsIn directory).spec =
        components (aliasedConfig.pathsIn directory).output := by
  have hspec : SpellsEntry "a/" "a" := Files.components_eq_singleton_iff.1 (by decide)
  have houtput : SpellsEntry "a" "a" := Files.components_eq_singleton_iff.1 (by decide)
  refine ⟨by decide, by decide, fun directory => ?_⟩
  obtain ⟨hspecPath, houtputPath⟩ :=
    components_pathsIn (c := aliasedConfig) directory hspec houtput
  rw [hspecPath, houtputPath]

end ZoneGuard.EngineConfig
