import Mathlib
import ZoneGuard.Proofs.Spec.Forms

/-!
# Names of signatures

The signatures of a specification have different names, whatever the ids are.  Atoms
of one kind differ because no identifier is used twice, atoms of two kinds differ by the
prefixes of the kinds, and no name of the base begins with such a prefix.
-/

namespace ZoneGuard

open Json (Value)

/-- The names of the signatures that the text declares, line by line. -/
def Specification.signatureNames (s : Specification) : List String :=
  (Text.lines s.text).flatMap Spec.declaredNames

/-! ## Atoms -/

theorem isIdentifier_atomLabel (kind : EntityKind) (id : Identifier) :
    IsIdentifier (kind.atomLabel id).toList := by
  have hword := kind.isWordChar_of_mem_atomLabel id
  rw [EntityKind.toList_atomLabel] at hword ⊢
  have hprefix : ∃ c cs, kind.atomPrefix.toList = c :: cs ∧ c.isAlpha = true := by
    cases kind <;> exact ⟨_, _, rfl, rfl⟩
  obtain ⟨c, cs, heq, hletter⟩ := hprefix
  rw [heq, List.cons_append] at hword ⊢
  exact ⟨hletter, fun d hd => hword d (List.mem_cons_of_mem c hd)⟩

/-- No name of the base begins like an atom. -/
theorem Spec.not_isPrefix_of_mem_base : ∀ name ∈ base.flatMap Form.declared,
    ∀ kind : EntityKind, ¬ kind.atomPrefix.toList <+: name.toList := by
  have hchars : ∀ name ∈ base.flatMap Form.declared,
      (EntityKind.all.all fun kind => !kind.atomPrefix.toList.isPrefixOf name.toList) = true := by
    apply Text.forall_of_spells fun cs =>
      (EntityKind.all.all fun kind => !kind.atomPrefix.toList.isPrefixOf cs) = true
    · repeat' constructor
    · decide +kernel
  intro name hname kind hprefix
  have hnone := List.all_eq_true.1 (hchars name hname) kind (by cases kind <;> decide)
  rw [List.isPrefixOf_iff_prefix.2 hprefix] at hnone
  cases hnone

namespace Graph

/-- The atoms of all entities, kind by kind. -/
def atoms (g : Graph) : List String :=
  EntityKind.all.flatMap fun kind => (g.identifiers kind).map kind.atomLabel

variable {g : Graph}

theorem mem_atoms {name : String} :
    name ∈ g.atoms ↔ ∃ kind, ∃ id ∈ g.identifiers kind, kind.atomLabel id = name := by
  simp only [atoms, List.mem_flatMap, List.mem_map]
  constructor
  · rintro ⟨kind, -, hid⟩
    exact ⟨kind, hid⟩
  · rintro ⟨kind, hid⟩
    exact ⟨kind, by cases kind <;> decide, hid⟩

/-- Entities have different atoms, also across kinds. -/
theorem nodup_atoms (h : ∀ kind, (g.identifiers kind).Nodup) : g.atoms.Nodup := by
  refine List.nodup_flatMap.2 ⟨fun kind _ => ?_, ?_⟩
  · exact (h kind).map fun _ _ heq => (atomLabel_inj.1 heq).2
  · have hkinds : EntityKind.all.Pairwise (· ≠ ·) := by decide
    refine hkinds.imp fun hne name hname hname' => ?_
    obtain ⟨id, -, rfl⟩ := List.mem_map.1 hname
    obtain ⟨id', -, heq⟩ := List.mem_map.1 hname'
    exact hne (atomLabel_inj.1 heq).1.symm

theorem notMem_base_of_mem_atoms {name : String} (h : name ∈ g.atoms) :
    name ∉ Spec.base.flatMap Spec.Form.declared := by
  obtain ⟨kind, id, -, rfl⟩ := mem_atoms.1 h
  intro hmem
  refine Spec.not_isPrefix_of_mem_base _ hmem kind ?_
  rw [EntityKind.toList_atomLabel]
  exact List.prefix_append _ _

theorem resultSignature_notMem_atoms : resultSignature ∉ g.atoms := by
  intro hmem
  obtain ⟨kind, id, -, heq⟩ := mem_atoms.1 hmem
  have hhead := congrArg (fun name : String => name.toList.head?) heq
  simp only [EntityKind.toList_atomLabel] at hhead
  cases kind <;> simp [EntityKind.atomPrefix, EntityKind.signature, resultSignature] at hhead

/-! ## Names -/

/-- The base, the entities and the result declare signatures, in this order. -/
theorem declared_forms (g : Graph) : g.forms.flatMap Spec.Form.declared =
    Spec.base.flatMap Spec.Form.declared ++ g.atoms ++ [resultSignature] := by
  have hentity (kind : EntityKind) (id : Identifier) (values : List (String × String)) :
      (ZoneGuard.entityForms kind id values).flatMap Spec.Form.declared = [kind.atomLabel id] := rfl
  have hdata (d : DataAsset) :
      d.forms.flatMap Spec.Form.declared = [EntityKind.data.atomLabel d.id.safe] := by
    rw [DataAsset.forms, List.flatMap_append, hentity]
    split <;> rfl
  have hentities : g.entityForms.flatMap Spec.Form.declared = g.atoms := by
    simp [entityForms, atoms, EntityKind.all, identifiers, List.flatMap_assoc,
      List.map_eq_flatMap, hdata, hentity, Location.forms, System.forms, Connection.forms]
  have hcommon : commonForms.flatMap Spec.Form.declared =
      Spec.base.flatMap Spec.Form.declared := by
    rw [commonForms, List.flatMap_append, List.flatMap_append]
    exact List.append_nil _
  have hresult : resultForms.flatMap Spec.Form.declared = [resultSignature] := rfl
  simp only [forms, List.flatMap_append, hcommon, hentities, hresult]
  exact List.append_nil _

theorem signatureNames_of_compile {spec : Specification} (h : g.compile = .ok spec) :
    spec.signatureNames =
      Spec.base.flatMap Spec.Form.declared ++ g.atoms ++ [resultSignature] := by
  rw [Specification.signatureNames, text_of_compile h,
    Spec.declaredNames_render g.isProper_of_mem_forms, declared_forms]

/-- No name is declared twice. -/
theorem nodup_signatureNames {spec : Specification} (h : g.compile = .ok spec)
    (hnodup : ∀ kind, (g.identifiers kind).Nodup) : spec.signatureNames.Nodup := by
  have hbase : (Spec.base.flatMap Spec.Form.declared).Nodup := by decide +kernel
  have hresult : resultSignature ∉ Spec.base.flatMap Spec.Form.declared := by decide +kernel
  rw [signatureNames_of_compile h]
  refine List.Nodup.append (hbase.append (nodup_atoms hnodup) fun name hname hatom => ?_)
    (List.nodup_singleton _) fun name hname heq => ?_
  · exact notMem_base_of_mem_atoms hatom hname
  · obtain rfl := List.mem_singleton.1 heq
    exact (List.mem_append.1 hname).elim hresult resultSignature_notMem_atoms

theorem isIdentifier_of_mem_signatureNames {spec : Specification} (h : g.compile = .ok spec) :
    ∀ name ∈ spec.signatureNames, IsIdentifier name.toList := by
  rw [signatureNames_of_compile h]
  intro name hname
  rcases List.mem_append.1 hname with hname | hname
  · rcases List.mem_append.1 hname with hname | hname
    · exact (Spec.isIdentifier_of_mem_base name hname).1
    · obtain ⟨kind, id, -, rfl⟩ := mem_atoms.1 hname
      exact isIdentifier_atomLabel kind id
  · rw [List.mem_singleton.1 hname]
    decide

/-- The text of an accepted payload declares the signatures of the base, an atom for
every entity, and the signature of the result.  All their names are identifiers, and no
two of them are the same. -/
theorem signatureNames_of_ofJson {v : Value} {g : Graph} (h : ofJson v = .ok g) :
    ∃ spec, g.compile = .ok spec ∧
      spec.signatureNames =
        Spec.base.flatMap Spec.Form.declared ++ g.atoms ++ [resultSignature] ∧
      spec.signatureNames.Nodup ∧
      ∀ name ∈ spec.signatureNames, IsIdentifier name.toList := by
  have hconsistent := consistent_of_ofJson h
  have hok := hconsistent.compile_eq_ok
  refine ⟨_, hok, signatureNames_of_compile hok, nodup_signatureNames hok fun kind => ?_,
    isIdentifier_of_mem_signatureNames hok⟩
  rw [identifiers_eq_map]
  exact hconsistent.isWellFormed.nodup_safe kind

/-- Entities of different kinds with one id, and ids that are names or begin like atoms
themselves. -/
def clashingPayload : Value :=
  .object
    [("connections", .array
      [.object [("from", .string "Data"), ("id", .string "True"), ("to", .string "Data")]]),
     ("data", .array [.object [("id", .string "Data")], .object [("id", .string "Data_x")]]),
     ("locations", .array [.object [("id", .string "Data")]]),
     ("systems", .array
      [.object [("id", .string "Data"), ("location", .string "Data")],
       .object [("id", .string "System_Data"), ("location", .string "Data")]])]

theorem signatureNames_of_ofJson_clashingPayload :
    ∃ g spec, ofJson clashingPayload = .ok g ∧ g.compile = .ok spec ∧
      g.atoms = ["Location_Data", "Data_Data", "Data_Data_x", "System_Data",
        "System_System_Data", "Connection_True"] ∧
      spec.signatureNames.Nodup := by
  have hread : (ofJson clashingPayload).toOption.map Graph.atoms =
      some ["Location_Data", "Data_Data", "Data_Data_x", "System_Data", "System_System_Data",
        "Connection_True"] := by decide +kernel
  obtain ⟨g, hg, hatoms⟩ := Option.map_eq_some_iff.1 hread
  have hok := except_toOption_eq_some_iff.1 hg
  obtain ⟨spec, hcompile, -, hnodup, -⟩ := signatureNames_of_ofJson hok
  exact ⟨g, spec, hok, hcompile, hatoms, hnodup⟩

end Graph

end ZoneGuard
