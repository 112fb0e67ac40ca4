import Mathlib
import ZoneGuard.Proofs.Attribution
import ZoneGuard.Proofs.RelationTable

/-!
# What classification attributes, and what it warns about

The ids of a graph are consulted through tables.  Since the tables mirror the
lists of entities, what becomes of an atom can be told by the lists alone: an
entity of the expected kind with the atom's normal form, or else the atom itself
and a warning.  From this follow the findings and the warnings for whole tables.
Which labels of an engine lead to an entity is a matter of their spelling: the
prefix of any kind is taken away, and so does not tell the kind.
-/

namespace ZoneGuard

open Json (Value)
open Markup (Element)

/-! ## Atoms -/

namespace Graph

/-- The entity of a kind whose identifier is the normal form of an atom. -/
def entityOf? (g : Graph) (kind : EntityKind) (atom : String) : Option EntityId :=
  (g.entityIds kind).find? (·.safe == Identifier.ofText atom)

/-- The id under which an atom is reported: the entity's, or the atom itself. -/
def reportedId (g : Graph) (kind : EntityKind) (atom : String) : String :=
  ((g.entityOf? kind atom).map (·.raw)).getD atom

/-- The warning about an atom where a rule expects an entity of the kind. -/
def atomWarning? (g : Graph) (r : Rule) (kind : EntityKind) (atom : String) : Option Warning :=
  if (g.entityOf? kind atom).isSome then none else some (.unknownAtom r kind atom)

/-- An atom names no entity exactly if it has the identifier of none. -/
theorem entityOf?_eq_none_iff {g : Graph} {kind : EntityKind} {atom : String} :
    g.entityOf? kind atom = none ↔ ∀ e ∈ g.entityIds kind, e.safe ≠ Identifier.ofText atom := by
  simp [entityOf?]

theorem of_entityOf?_eq_some {g : Graph} {kind : EntityKind} {atom : String} {e : EntityId}
    (h : g.entityOf? kind atom = some e) :
    e ∈ g.entityIds kind ∧ e.safe = Identifier.ofText atom :=
  ⟨List.mem_of_find?_eq_some h, by simpa using List.find?_some h⟩

namespace Consistent

variable {g : Graph}

/-- No two entities have one identifier, so an atom names each entity that has its own. -/
theorem entityOf?_eq_some_iff (h : g.Consistent) {kind : EntityKind} {atom : String}
    {e : EntityId} :
    g.entityOf? kind atom = some e ↔
      e ∈ g.entityIds kind ∧ e.safe = Identifier.ofText atom := by
  refine ⟨of_entityOf?_eq_some, fun ⟨hmem, hsafe⟩ => ?_⟩
  cases hentity : g.entityOf? kind atom with
  | none => exact absurd hsafe (entityOf?_eq_none_iff.1 hentity e hmem)
  | some e' =>
      obtain ⟨hmem', hsafe'⟩ := of_entityOf?_eq_some hentity
      exact congrArg some (List.inj_on_of_nodup_map (h.mirrors kind).nodup_safe hmem' hmem
        (hsafe'.trans hsafe.symm))

/-- The table of a kind leads to the entity in the list. -/
theorem raw?_ofText (h : g.Consistent) (kind : EntityKind) (atom : String) :
    (g.ids.ofKind kind).raw? (Identifier.ofText atom) =
      (g.entityOf? kind atom).map (·.raw) := by
  cases hentity : g.entityOf? kind atom with
  | some e =>
      obtain ⟨hmem, hsafe⟩ := of_entityOf?_eq_some hentity
      rw [← hsafe]
      exact ((h.mirrors kind).raw_iff e.safe e.raw).2 hmem
  | none =>
      rw [Option.map_none, Option.eq_none_iff_forall_ne_some]
      intro raw hraw
      exact entityOf?_eq_none_iff.1 hentity _ (((h.mirrors kind).raw_iff _ raw).1 hraw) rfl

theorem declaredId_eq (h : g.Consistent) (r : Rule) (kind : EntityKind) (atom : String) :
    declaredId g.ids r kind atom =
      (g.reportedId kind atom, (g.atomWarning? r kind atom).toList) := by
  rw [declaredId, h.raw?_ofText, reportedId, atomWarning?]
  cases g.entityOf? kind atom with
  | some e => rfl
  | none => rfl

/-- An atom that is kept as it is never is the id of an entity: such an id would
have been found by its own normal form. -/
theorem reportedId_mem_iff (h : g.Consistent) (r : Rule) (kind : EntityKind) (atom : String) :
    g.reportedId kind atom ∈ (g.entityIds kind).map (·.raw) ↔
      g.atomWarning? r kind atom = none := by
  rw [reportedId, atomWarning?]
  cases hentity : g.entityOf? kind atom with
  | some e => simpa using ⟨e, (of_entityOf?_eq_some hentity).1, rfl⟩
  | none =>
      rw [Option.map_none, Option.getD_none, Option.isSome_none]
      simp only [Bool.false_eq_true, if_false, reduceCtorEq, iff_false]
      intro hmem
      obtain ⟨e, he, rfl⟩ := List.mem_map.1 hmem
      exact entityOf?_eq_none_iff.1 hentity e he ((h.mirrors kind).normalized e he)

end Consistent

end Graph

/-! ## Tuples -/

/-- The places of a tuple that a rule reads, each with the kind it expects there:
the subject, and the data asset if the rule names one. -/
def Rule.positions (r : Rule) (tuple : List String) : List (EntityKind × String) :=
  (r.arity.subject, tuple.getD 1 "")
    :: if r.arity.hasData then [(.data, tuple.getD 2 "")] else []

theorem Arity.one_lt_tupleLength (a : Arity) : 1 < a.tupleLength := by
  cases a <;> decide

theorem Arity.two_lt_tupleLength {a : Arity} (h : a.hasData = true) : 2 < a.tupleLength := by
  rw [tupleLength, if_pos h]
  decide

def RelationTable.completeTuples (t : RelationTable) (r : Rule) : List AtomTuple :=
  (t.get r.key).filter fun tuple => r.arity.tupleLength ≤ tuple.length

namespace Graph

/-- The finding that a tuple stands for. -/
def findingOf (g : Graph) (r : Rule) (tuple : AtomTuple) : Finding where
  subject := .ofKind r.arity.subject (g.reportedId r.arity.subject (tuple.getD 1 ""))
  data? := if r.arity.hasData then some (g.reportedId .data (tuple.getD 2 "")) else none
  remediation := r.remediation

def tupleWarnings (g : Graph) (r : Rule) (tuple : AtomTuple) : List Warning :=
  (r.positions tuple).flatMap fun p => (g.atomWarning? r p.1 p.2).toList

namespace Consistent

variable {g : Graph}

/-- A tuple is a finding exactly if it is long enough, and what it is read as. -/
theorem findingOfTuple?_eq (h : g.Consistent) (r : Rule) (tuple : AtomTuple) :
    findingOfTuple? g.ids r tuple =
      if r.arity.tupleLength ≤ tuple.length then some (g.findingOf r tuple, g.tupleWarnings r tuple)
      else none := by
  cases hdata : r.arity.hasData with
  | false =>
      rcases tuple with _ | ⟨_, _ | ⟨subject, rest⟩⟩
      · simp [findingOfTuple?, Arity.tupleLength, hdata]
      · simp [findingOfTuple?, Arity.tupleLength, hdata]
      · simp [findingOfTuple?, Finding.ofRule, findingOf, tupleWarnings, Rule.positions,
          Arity.tupleLength, hdata, h.declaredId_eq]
  | true =>
      rcases tuple with _ | ⟨_, _ | ⟨subject, _ | ⟨data, rest⟩⟩⟩
      · simp [findingOfTuple?, Arity.tupleLength, hdata]
      · simp [findingOfTuple?, Arity.tupleLength, hdata]
      · simp [findingOfTuple?, Arity.tupleLength, hdata]
      · simp [findingOfTuple?, Finding.ofRule, findingOf, tupleWarnings, Rule.positions,
          Arity.tupleLength, hdata, h.declaredId_eq]

/-- Each tuple that is long enough is one finding, and the others are none. -/
theorem findingsOf_eq (h : g.Consistent) (t : RelationTable) (r : Rule) :
    findingsOf g.ids t r =
      (t.completeTuples r).map fun tuple => (g.findingOf r tuple, g.tupleWarnings r tuple) := by
  rw [findingsOf, RelationTable.completeTuples]
  induction t.get r.key with
  | nil => rfl
  | cons tuple tuples ih =>
      rw [List.filterMap_cons, List.filter_cons, h.findingOfTuple?_eq, ih]
      by_cases hlength : r.arity.tupleLength ≤ tuple.length
      · simp [hlength]
      · simp [hlength]

end Consistent

end Graph

/-! ## Labels of relations -/

theorem Rule.ofKey?_eq_some_iff {key : String} {r : Rule} : ofKey? key = some r ↔ r.key = key := by
  constructor
  · intro h
    simpa using List.find?_some h
  · rintro rfl
    exact ofKey?_key r

theorem Rule.ofKey?_eq_none_iff {key : String} : ofKey? key = none ↔ ∀ r : Rule, r.key ≠ key := by
  simp only [Option.eq_none_iff_forall_ne_some, ne_eq, ofKey?_eq_some_iff]

theorem Rule.mem_localRules_iff {r : Rule} : r ∈ localRules ↔ r.byEngine = false := by
  simp [localRules, r.mem_all]

theorem labelWarning?_key (r : Rule) :
    labelWarning? r.key = if r.byEngine then none else some (.localRule r) := by
  rw [labelWarning?, Rule.ofKey?_key]

theorem labelWarning?_of_ne_key {label : String} (h : ∀ r : Rule, r.key ≠ label) :
    labelWarning? label =
      if "Find".toList.isPrefixOf label.toList then some (.unknownRule label) else none := by
  rw [labelWarning?, Rule.ofKey?_eq_none_iff.2 h]

/-- The labels that deserve a warning, and the warning. -/
theorem labelWarning?_eq_some_iff {label : String} {w : Warning} :
    labelWarning? label = some w ↔
      (∃ r ∈ Rule.localRules, r.key = label ∧ w = .localRule r) ∨
        ((∀ r : Rule, r.key ≠ label) ∧ "Find".toList <+: label.toList ∧ w = .unknownRule label) := by
  by_cases hkey : ∃ r : Rule, r.key = label
  · obtain ⟨r, rfl⟩ := hkey
    rw [labelWarning?_key]
    constructor
    · intro h
      cases hengine : r.byEngine with
      | true => simp [hengine] at h
      | false =>
          simp only [hengine, Bool.false_eq_true, if_false, Option.some.injEq] at h
          exact Or.inl ⟨r, Rule.mem_localRules_iff.2 hengine, rfl, h.symm⟩
    · rintro (⟨r', hlocal, hkey, rfl⟩ | ⟨hnone, -⟩)
      · obtain rfl := Rule.key_injective hkey
        rw [Rule.mem_localRules_iff.1 hlocal, if_neg Bool.false_ne_true]
      · exact absurd rfl (hnone r)
  · have hnone : ∀ r : Rule, r.key ≠ label := fun r heq => hkey ⟨r, heq⟩
    rw [labelWarning?_of_ne_key hnone]
    constructor
    · intro h
      split at h
      · next hfind =>
        exact Or.inr ⟨hnone, List.isPrefixOf_iff_prefix.1 hfind, (Option.some.inj h).symm⟩
      · cases h
    · rintro (⟨r, -, heq, -⟩ | ⟨-, hfind, rfl⟩)
      · exact absurd heq (hnone r)
      · rw [if_pos (List.isPrefixOf_iff_prefix.2 hfind)]

/-! ## Whole tables -/

theorem Subject.id_ofKind (kind : EntityKind) (id : String) : (Subject.ofKind kind id).id = id := by
  cases kind <;> rfl

theorem Subject.kind_ofKind_subject (a : Arity) (id : String) :
    (Subject.ofKind a.subject id).kind = a.subject := by
  cases a <;> rfl

theorem Subject.ofKind_injective (kind : EntityKind) : Function.Injective (Subject.ofKind kind) := by
  intro id id' heq
  have hid := congrArg Subject.id heq
  rwa [id_ofKind, id_ofKind] at hid

/-- What classification makes of a table, told by the entities of the graph. -/
structure IsExactClassification (g : Graph) (t : RelationTable) (c : Classification) : Prop where
  /-- Each tuple of an engine's rule that is long enough is one finding, in the
  order of the tuples, and the others are none. -/
  findings : ∀ r ∈ Rule.engineRules, c.findings.of r = (t.completeTuples r).map (g.findingOf r)
  /-- The warnings are those about labels, in their order, and then those about
  atoms, by rule, by tuple, and with the subject before the data asset. -/
  warnings : c.warnings = t.labels.filterMap labelWarning?
    ++ Rule.engineRules.flatMap fun r => (t.completeTuples r).flatMap (g.tupleWarnings r)
  labels : t.labels.Pairwise fun a b => Text.encode a < Text.encode b
  labelWarning_iff : ∀ label w, labelWarning? label = some w ↔
    (∃ r ∈ Rule.localRules, r.key = label ∧ w = .localRule r) ∨
      ((∀ r : Rule, r.key ≠ label) ∧ "Find".toList <+: label.toList ∧ w = .unknownRule label)
  /-- Where there is no warning, and only there, the id is that of an entity. -/
  declared_iff : ∀ r kind atom, g.reportedId kind atom ∈ (g.entityIds kind).map (·.raw) ↔
    g.atomWarning? r kind atom = none
  /-- Where there is a warning, it names the atom, and the atom is kept. -/
  unknown : ∀ r kind atom w, g.atomWarning? r kind atom = some w →
    w = .unknownAtom r kind atom ∧ g.reportedId kind atom = atom
  /-- A finding on an unknown atom is in no group with one on an entity. -/
  separate : ∀ r tuple tuple',
    (g.atomWarning? r r.arity.subject (tuple.getD 1 "")).isSome ≠
      (g.atomWarning? r r.arity.subject (tuple'.getD 1 "")).isSome →
    (g.findingOf r tuple).isAlike (g.findingOf r tuple') = false

theorem Graph.of_atomWarning?_eq_some {g : Graph} {r : Rule} {kind : EntityKind} {atom : String}
    {w : Warning} (h : g.atomWarning? r kind atom = some w) :
    w = .unknownAtom r kind atom ∧ g.reportedId kind atom = atom := by
  rw [atomWarning?] at h
  rw [reportedId]
  cases hentity : g.entityOf? kind atom with
  | some e => simp [hentity] at h
  | none =>
      simp only [hentity, Option.isSome_none, Bool.false_eq_true, if_false,
        Option.some.injEq] at h
      exact ⟨h.symm, rfl⟩

theorem Graph.Consistent.isAlike_eq_false {g : Graph} (h : g.Consistent) {r : Rule}
    {tuple tuple' : AtomTuple}
    (hdiffer : (g.atomWarning? r r.arity.subject (tuple.getD 1 "")).isSome ≠
      (g.atomWarning? r r.arity.subject (tuple'.getD 1 "")).isSome) :
    (g.findingOf r tuple).isAlike (g.findingOf r tuple') = false := by
  have hsubject : (g.findingOf r tuple).subject ≠ (g.findingOf r tuple').subject := by
    intro heq
    have hid : g.reportedId r.arity.subject (tuple.getD 1 "") =
        g.reportedId r.arity.subject (tuple'.getD 1 "") := Subject.ofKind_injective _ heq
    apply hdiffer
    rw [Bool.eq_iff_iff, Option.isSome_iff_ne_none, Option.isSome_iff_ne_none, ne_eq, ne_eq,
      ← h.reportedId_mem_iff, ← h.reportedId_mem_iff, hid]
  rw [Finding.isAlike, beq_eq_false_iff_ne.2 hsubject, Bool.false_and]

/-- For a graph that was read from a payload, classification makes findings of
the complete tuples and of nothing else, and warns exactly where a label or an
atom is out of place; what it keeps of an unknown atom is the id of no entity. -/
theorem RelationTable.isExactClassification_classify {v : Value} {g : Graph}
    (hg : Graph.ofJson v = .ok g) {t : RelationTable} (ht : t.IsOrdered) :
    IsExactClassification g t (t.classify g.ids) := by
  have hconsistent := Graph.consistent_of_ofJson hg
  refine ⟨fun r hr => ?_, ?_, ht.pairwise_encode, fun _ _ => labelWarning?_eq_some_iff,
    hconsistent.reportedId_mem_iff, fun _ _ _ _ h => Graph.of_atomWarning?_eq_some h,
    fun _ _ _ h => hconsistent.isAlike_eq_false h⟩
  · rw [of_classify _ _ hr, hconsistent.findingsOf_eq, List.map_map]
    rfl
  · rw [classify]
    simp only [hconsistent.findingsOf_eq, List.flatMap_map]

/-- A zone, a data asset and a system that share an id, which is no identifier. -/
def sharedIdPayload : Value :=
  .object
    [("data", .array [.object [("id", .string "s-")]]),
     ("locations", .array [.object [("id", .string "s-")]]),
     ("systems", .array [.object [("id", .string "s-"), ("location", .string "s-")]])]

/-- Relations of a local rule, of no rule, of two rules and of the specification,
with a tuple that is too short and with atoms of no entity. -/
def driftedTable : RelationTable :=
  ⟨[("FindEOL", [["result", "s_"]]), ("FindLegacy", []),
    ("FindLocationViolations", [["result"], ["result", "ghost"], ["result", "s_"]]),
    ("FindStorageViolations", [["result", "s_", "ghost"]]), ("grade", [["s_", "Open"]])]⟩

theorem RelationTable.isExactClassification_classify_driftedTable :
    ∃ g, Graph.ofJson sharedIdPayload = .ok g ∧ driftedTable.IsOrdered ∧
      IsExactClassification g driftedTable (driftedTable.classify g.ids) ∧
      (driftedTable.classify g.ids).warnings =
        [.localRule .endOfLife, .unknownRule "FindLegacy",
          .unknownAtom .storageViolations .data "ghost",
          .unknownAtom .locationViolations .system "ghost"] := by
  have hread : (Graph.ofJson sharedIdPayload).toOption.map (fun g =>
      (driftedTable.classify g.ids).warnings) =
        some [.localRule .endOfLife, .unknownRule "FindLegacy",
          .unknownAtom .storageViolations .data "ghost",
          .unknownAtom .locationViolations .system "ghost"] := by decide +kernel
  obtain ⟨g, hg, hwarnings⟩ := Option.map_eq_some_iff.1 hread
  have hok := except_toOption_eq_some_iff.1 hg
  have hordered : driftedTable.IsOrdered := by
    unfold IsOrdered
    decide +kernel
  exact ⟨g, hok, hordered, isExactClassification_classify hok hordered, hwarnings⟩

/-! ## The labels that lead to an entity -/

/-- A label without its namespace, which ends at the last slash, and without its
number, which begins at the first dollar sign behind it. -/
def bareLabel (label : String) : List Char :=
  (label.toList.reverse.takeWhile (· != '/')).reverse.takeWhile (· != '$')

/-- The label names the identifier: without its namespace, its number and the
prefix of a kind, if it begins with the prefix of any, it has the identifier for
its normal form. -/
inductive LabelNames (label : String) (id : Identifier) : Prop
  | ofKind (kind : EntityKind) (rest : List Char)
      (hlabel : bareLabel label = kind.atomPrefix.toList ++ rest)
      (hid : Identifier.ofText (String.ofList rest) = id)
  | ofNoKind
      (hlabel : ∀ (kind : EntityKind) (rest : List Char),
        bareLabel label ≠ kind.atomPrefix.toList ++ rest)
      (hid : Identifier.ofText (String.ofList (bareLabel label)) = id)

theorem cleanLabel_eq (label : String) :
    cleanLabel label = String.ofList ((EntityKind.all.findSome? fun kind =>
      List.isPrefixOf? kind.atomPrefix.toList (bareLabel label)).getD (bareLabel label)) := rfl

theorem cleanLabel_of_atomPrefix {label : String} {kind : EntityKind} {rest : List Char}
    (h : bareLabel label = kind.atomPrefix.toList ++ rest) :
    cleanLabel label = String.ofList rest := by
  rw [cleanLabel_eq, h, EntityKind.findSome?_isPrefixOf?_atomPrefix, Option.getD_some]

theorem cleanLabel_of_no_atomPrefix {label : String}
    (h : ∀ (kind : EntityKind) (rest : List Char),
      bareLabel label ≠ kind.atomPrefix.toList ++ rest) :
    cleanLabel label = String.ofList (bareLabel label) := by
  have hnone : EntityKind.all.findSome? (fun kind =>
      List.isPrefixOf? kind.atomPrefix.toList (bareLabel label)) = none := by
    rw [List.findSome?_eq_none_iff]
    intro kind _
    rw [Option.eq_none_iff_forall_ne_some]
    intro rest hrest
    exact h kind rest (List.isPrefixOf?_eq_some_iff_append_eq.1 hrest).symm
  rw [cleanLabel_eq, hnone, Option.getD_none]

/-- Cleaning a label and normalizing the rest leads to the identifier that the
label names. -/
theorem labelNames_iff {label : String} {id : Identifier} :
    LabelNames label id ↔ Identifier.ofText (cleanLabel label) = id := by
  constructor
  · rintro (⟨kind, rest, hlabel, hid⟩ | ⟨hlabel, hid⟩)
    · rwa [cleanLabel_of_atomPrefix hlabel]
    · rwa [cleanLabel_of_no_atomPrefix hlabel]
  · intro h
    by_cases hkind : ∃ (kind : EntityKind) (rest : List Char),
        bareLabel label = kind.atomPrefix.toList ++ rest
    · obtain ⟨kind, rest, hlabel⟩ := hkind
      rw [cleanLabel_of_atomPrefix hlabel] at h
      exact .ofKind kind rest hlabel h
    · have hnone : ∀ (kind : EntityKind) (rest : List Char),
          bareLabel label ≠ kind.atomPrefix.toList ++ rest :=
        fun kind rest heq => hkind ⟨kind, rest, heq⟩
      rw [cleanLabel_of_no_atomPrefix hnone] at h
      exact .ofNoKind hnone h

/-- A label leads to the entity that it names. -/
theorem Graph.Consistent.entityOf?_cleanLabel_eq_some_iff {g : Graph} (h : g.Consistent)
    {kind : EntityKind} {label : String} {e : EntityId} :
    g.entityOf? kind (cleanLabel label) = some e ↔
      e ∈ g.entityIds kind ∧ LabelNames label e.safe := by
  rw [h.entityOf?_eq_some_iff, labelNames_iff, eq_comm]

/-- There is no warning about a label exactly if it names an entity of the kind. -/
theorem Graph.Consistent.atomWarning?_cleanLabel_eq_none_iff {g : Graph} (h : g.Consistent)
    (r : Rule) (kind : EntityKind) (label : String) :
    g.atomWarning? r kind (cleanLabel label) = none ↔
      ∃ e ∈ g.entityIds kind, LabelNames label e.safe := by
  calc g.atomWarning? r kind (cleanLabel label) = none
    _ ↔ (g.entityOf? kind (cleanLabel label)).isSome := by
      rw [atomWarning?, ite_eq_left_iff]
      simp only [reduceCtorEq, imp_false, not_not]
    _ ↔ ∃ e, g.entityOf? kind (cleanLabel label) = some e := Option.isSome_iff_exists
    _ ↔ ∃ e ∈ g.entityIds kind, LabelNames label e.safe :=
      exists_congr fun _ => h.entityOf?_cleanLabel_eq_some_iff

/-- An entity that is named is the one reported. -/
theorem Graph.Consistent.reportedId_cleanLabel {g : Graph} (h : g.Consistent)
    {kind : EntityKind} {label : String} {e : EntityId} (he : e ∈ g.entityIds kind)
    (hnames : LabelNames label e.safe) : g.reportedId kind (cleanLabel label) = e.raw := by
  rw [reportedId, h.entityOf?_cleanLabel_eq_some_iff.2 ⟨he, hnames⟩]
  rfl

/-- A rule expects different kinds at the places it reads. -/
theorem Rule.eq_of_mem_positions {r : Rule} {tuple : List String} {kind : EntityKind}
    {atom atom' : String} (h : (kind, atom) ∈ r.positions tuple)
    (h' : (kind, atom') ∈ r.positions tuple) : atom = atom' := by
  have hsubject : r.arity.subject ≠ .data := by cases r <;> decide
  rw [positions] at h h'
  cases hdata : r.arity.hasData <;> grind

/-- The warnings about a tuple tell for each place whether its atom is unknown. -/
theorem Graph.unknownAtom_notMem_tupleWarnings_iff {g : Graph} {r : Rule} {tuple : AtomTuple}
    {kind : EntityKind} {atom : String} (h : (kind, atom) ∈ r.positions tuple) :
    (∀ other, .unknownAtom r kind other ∉ g.tupleWarnings r tuple) ↔
      g.atomWarning? r kind atom = none := by
  constructor
  · intro hnone
    by_contra hsome
    obtain ⟨w, hw⟩ := Option.ne_none_iff_exists'.1 hsome
    obtain ⟨rfl, -⟩ := of_atomWarning?_eq_some hw
    exact hnone atom (List.mem_flatMap.2 ⟨(kind, atom), h, by simp [hw]⟩)
  · intro hnone other hmem
    obtain ⟨⟨kind', atom'⟩, hposition, hw⟩ := List.mem_flatMap.1 hmem
    obtain ⟨heq, -⟩ := of_atomWarning?_eq_some (Option.mem_toList.1 hw)
    cases heq
    cases Rule.eq_of_mem_positions h hposition
    simp [hnone] at hw

theorem exists_label_of_lt {labels : List String} {i : Nat} (h : i < labels.length) :
    ∃ label, labels[i]? = some label ∧ (labels.map cleanLabel).getD i "" = cleanLabel label :=
  ⟨labels[i], List.getElem?_eq_getElem h, by simp [h]⟩

/-- The id that a finding has from a label where an entity of the kind is expected.
There is no warning exactly if the label names such an entity, whatever prefix it
bears, and then the id is this entity's. -/
structure IsReadFrom (g : Graph) (r : Rule) (kind : EntityKind) (label id : String)
    (warnings : List Warning) : Prop where
  unwarned_iff : (∀ atom, .unknownAtom r kind atom ∉ warnings) ↔
    ∃ e ∈ g.entityIds kind, LabelNames label e.safe
  id_eq : ∀ e ∈ g.entityIds kind, LabelNames label e.safe → id = e.raw

/-- The finding of a tuple has its subject, which is of the kind that the rule is
about, and its data asset if the rule is about one, from the labels at their places. -/
structure IsNamedBy (g : Graph) (r : Rule) (labels : List String) (f : Finding)
    (warnings : List Warning) : Prop where
  subject_kind : f.subject.kind = r.arity.subject
  subject : ∃ label, labels[1]? = some label ∧
    IsReadFrom g r r.arity.subject label f.subject.id warnings
  data_isSome : f.data?.isSome = r.arity.hasData
  data : ∀ id, f.data? = some id → ∃ label, labels[2]? = some label ∧
    IsReadFrom g r .data label id warnings

theorem Graph.Consistent.isReadFrom {g : Graph} (h : g.Consistent) {r : Rule}
    {tuple : AtomTuple} {kind : EntityKind} {label : String}
    (hposition : (kind, cleanLabel label) ∈ r.positions tuple) :
    IsReadFrom g r kind label (g.reportedId kind (cleanLabel label))
      (g.tupleWarnings r tuple) where
  unwarned_iff := by
    rw [unknownAtom_notMem_tupleWarnings_iff hposition, h.atomWarning?_cleanLabel_eq_none_iff]
  id_eq _ he hnames := h.reportedId_cleanLabel he hnames

theorem Graph.Consistent.isNamedBy {g : Graph} (h : g.Consistent) {r : Rule}
    {labels : List String} {f : Finding} {warnings : List Warning}
    (htuple : findingOfTuple? g.ids r (labels.map cleanLabel) = some (f, warnings)) :
    IsNamedBy g r labels f warnings := by
  rw [h.findingOfTuple?_eq] at htuple
  split at htuple
  · next hlength =>
    cases htuple
    rw [List.length_map] at hlength
    refine ⟨?kind, ?subject, ?isSome, fun id hid => ?data⟩
    case kind =>
      rw [findingOf, Subject.kind_ofKind_subject]
    case subject =>
      obtain ⟨label, hlabel, hclean⟩ :=
        exists_label_of_lt (r.arity.one_lt_tupleLength.trans_le hlength)
      refine ⟨label, hlabel, ?_⟩
      rw [findingOf, Subject.id_ofKind, hclean]
      refine h.isReadFrom ?_
      rw [← hclean]
      exact List.mem_cons_self
    case isSome =>
      rw [findingOf]
      cases r.arity.hasData <;> rfl
    case data =>
      have hdata : r.arity.hasData = true := by
        by_contra hnone
        simp [findingOf, hnone] at hid
      obtain ⟨label, hlabel, hclean⟩ :=
        exists_label_of_lt ((Arity.two_lt_tupleLength hdata).trans_le hlength)
      rw [findingOf, hclean, if_pos hdata, Option.some_inj] at hid
      refine ⟨label, hlabel, hid ▸ h.isReadFrom ?_⟩
      simp [Rule.positions, hdata, ← hclean]
  · cases htuple

/-- The findings of a document are those of its tuples, and each is named by the
labels of its tuple unless there is a warning. -/
theorem Graph.unwarned_iff_labelNames {v : Value} {g : Graph} (hg : ofJson v = .ok g)
    {text : String} {t : RelationTable} (ht : RelationTable.ofText text = .ok t) :
    ∃ root, Element.ofText text = .ok root ∧ ∀ r ∈ Rule.engineRules,
      (t.classify g.ids).findings.of r = (root.writtenTuples r.key).filterMap (fun labels =>
        (findingOfTuple? g.ids r (labels.map cleanLabel)).map (·.1)) ∧
      ∀ labels ∈ root.writtenTuples r.key, ∀ f warnings,
        findingOfTuple? g.ids r (labels.map cleanLabel) = some (f, warnings) →
          warnings ⊆ (t.classify g.ids).warnings ∧ IsNamedBy g r labels f warnings := by
  obtain ⟨root, hroot, rfl⟩ := RelationTable.ofText_eq_ok_iff.1 ht
  refine ⟨root, hroot, fun r hr => ⟨?_, fun labels hlabels f warnings htuple => ⟨?_, ?_⟩⟩⟩
  · rw [RelationTable.of_classify _ _ hr, findingsOf, RelationTable.get_ofElement,
      List.filterMap_map, List.map_filterMap]
    rfl
  · intro w hw
    have hfinding : (f, warnings) ∈ findingsOf g.ids (.ofElement root) r := by
      rw [findingsOf, RelationTable.get_ofElement]
      exact List.mem_filterMap.2 ⟨_, List.mem_map_of_mem hlabels, htuple⟩
    rw [RelationTable.classify]
    exact List.mem_append_right _ (List.mem_flatMap.2 ⟨r, hr, List.mem_flatMap.2 ⟨_, hfinding, hw⟩⟩)
  · exact (consistent_of_ofJson hg).isNamedBy htuple

/-- One tuple under the key of a rule for systems and data, with the atom of a zone
in the place of the system and an id without a prefix in that of the data asset. -/
def strayDocument : String :=
  "<field label='FindStorageViolations'><tuple><atom label=''/>"
    ++ "<atom label='Location_s_$0'/><atom label='s-'/></tuple></field>"

def strayTable : RelationTable := ⟨[("FindStorageViolations", [["", "s_", "s-"]])]⟩

/-- The finding on the system and the data asset that share the zone's id. -/
def strayFinding : Finding := .ofRule .storageViolations (.system "s-") (some "s-")

theorem exists_ofText_strayDocument :
    ∃ root, Element.ofText strayDocument = .ok root ∧
      root.writtenTuples Rule.storageViolations.key = [["", "Location_s_$0", "s-"]] ∧
      RelationTable.ofElement root = strayTable := by
  have hread : (Element.ofText strayDocument).toOption.map (fun root =>
      (root.writtenTuples Rule.storageViolations.key, RelationTable.ofElement root)) =
        some ([["", "Location_s_$0", "s-"]], strayTable) := by decide +kernel
  obtain ⟨root, hroot, hvalues⟩ := Option.map_eq_some_iff.1 hread
  exact ⟨root, except_toOption_eq_some_iff.1 hroot, Prod.mk.inj hvalues⟩

theorem exists_classify_strayTable :
    ∃ g, Graph.ofJson sharedIdPayload = .ok g ∧
      findingOfTuple? g.ids .storageViolations ["", "s_", "s-"] = some (strayFinding, []) ∧
      (strayTable.classify g.ids).findings.of .storageViolations = [strayFinding] ∧
      (strayTable.classify g.ids).warnings = [] ∧
      ∀ kind ∈ [EntityKind.location, .system, .data],
        g.entityIds kind = [⟨"s-", .ofText "s-"⟩] := by
  have hread : (Graph.ofJson sharedIdPayload).toOption.map (fun g =>
      (findingOfTuple? g.ids .storageViolations ["", "s_", "s-"],
        (strayTable.classify g.ids).findings.of .storageViolations,
        (strayTable.classify g.ids).warnings,
        [EntityKind.location, .system, .data].map g.entityIds)) =
      some (some (strayFinding, []), [strayFinding], [],
        [[⟨"s-", .ofText "s-"⟩], [⟨"s-", .ofText "s-"⟩], [⟨"s-", .ofText "s-"⟩]]) := by
    decide +kernel
  obtain ⟨g, hg, hvalues⟩ := Option.map_eq_some_iff.1 hread
  simp only [Prod.mk.injEq, List.map_cons, List.map_nil, List.cons.injEq, and_true] at hvalues
  obtain ⟨hfinding, hfindings, hwarnings, hids⟩ := hvalues
  exact ⟨g, except_toOption_eq_some_iff.1 hg, hfinding, hfindings, hwarnings, by simpa using hids⟩

theorem Graph.unwarned_iff_labelNames_strayDocument :
    ∃ g t, ofJson sharedIdPayload = .ok g ∧ RelationTable.ofText strayDocument = .ok t ∧
      findingOfTuple? g.ids .storageViolations ["", "s_", "s-"] = some (strayFinding, []) ∧
      IsNamedBy g .storageViolations ["", "Location_s_$0", "s-"] strayFinding [] := by
  obtain ⟨root, hroot, htuples, -⟩ := exists_ofText_strayDocument
  obtain ⟨g, hg, hfinding, -⟩ := exists_classify_strayTable
  have ht := RelationTable.ofText_eq_ok_iff.2 ⟨root, hroot, rfl⟩
  obtain ⟨root', hroot', hrules⟩ := unwarned_iff_labelNames hg ht
  cases hroot.symm.trans hroot'
  obtain ⟨-, hnamed⟩ := hrules .storageViolations (by decide)
  have hclean : ["", "Location_s_$0", "s-"].map cleanLabel = ["", "s_", "s-"] := by decide +kernel
  refine ⟨g, _, hg, ht, hfinding, ?_⟩
  exact (hnamed _ (htuples ▸ List.mem_cons_self) _ _ (hclean ▸ hfinding)).2

/-- Neither label of the document is the atom of what it is taken for, and there is
no warning: the first is the atom of a zone, and the second an id. -/
theorem Graph.unwarned_of_atom_of_other_kind :
    ∃ g t root labels, ofJson sharedIdPayload = .ok g ∧
      RelationTable.ofText strayDocument = .ok t ∧ Element.ofText strayDocument = .ok root ∧
      root.writtenTuples Rule.storageViolations.key = [labels] ∧
      findingOfTuple? g.ids .storageViolations (labels.map cleanLabel) =
        some (.ofRule .storageViolations (.system "s-") (some "s-"), []) ∧
      (t.classify g.ids).findings.of .storageViolations =
        [.ofRule .storageViolations (.system "s-") (some "s-")] ∧
      (t.classify g.ids).warnings = [] ∧
      (∃ e ∈ g.entityIds .location,
        labels[1]?.map bareLabel = some (EntityKind.location.atomLabel e.safe).toList) ∧
      (∀ e ∈ g.entityIds .system,
        labels[1]?.map bareLabel ≠ some (EntityKind.system.atomLabel e.safe).toList) ∧
      ∀ e ∈ g.entityIds .data,
        labels[2]?.map bareLabel ≠ some (EntityKind.data.atomLabel e.safe).toList := by
  obtain ⟨root, hroot, htuples, htable⟩ := exists_ofText_strayDocument
  obtain ⟨g, hg, hfinding, hfindings, hwarnings, hids⟩ := exists_classify_strayTable
  have ht := RelationTable.ofText_eq_ok_iff.2 ⟨root, hroot, htable⟩
  have hclean : ["", "Location_s_$0", "s-"].map cleanLabel = ["", "s_", "s-"] := by decide +kernel
  refine ⟨g, strayTable, root, _, hg, ht, hroot, htuples, hclean ▸ hfinding,
    hfindings, hwarnings, ?_, ?_, ?_⟩
  · rw [hids .location (by decide)]
    exact ⟨_, List.mem_cons_self, by decide +kernel⟩
  · rw [hids .system (by decide), List.forall_mem_singleton]
    decide +kernel
  · rw [hids .data (by decide), List.forall_mem_singleton]
    decide +kernel

end ZoneGuard
