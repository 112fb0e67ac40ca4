import Mathlib
import ZoneGuard.Files.Path
import ZoneGuard.Proofs.References

/-!
# Paths that name an entry

A name without separators denotes an entry of any directory it is joined to.  Behind
the name a path may go on with separators and with components `.`, which do not count,
so an entry has many spellings.  The paths that pass for plain names are these
spellings, and not the names alone.
-/

namespace ZoneGuard.Files

open Text (splitAtEach splitAtEach_ne_nil splitAtEach_append splitAtEach_eq_cons_iff)

/-! ## Names and their spellings -/

structure IsEntryName (name : String) : Prop where
  ne_empty : name ≠ ""
  ne_current : name ≠ "."
  ne_parent : name ≠ ".."
  separator_notMem : '/' ∉ name.toList

/-- The path is the name of an entry, behind which parts may follow that do not count. -/
def SpellsEntry (path name : String) : Prop :=
  IsEntryName name ∧ ∃ idle : List (List Char), (∀ part ∈ idle, part = [] ∨ part = ['.']) ∧
    path.toList = name.toList ++ idle.flatMap ('/' :: ·)

theorem IsEntryName.spellsEntry {name : String} (h : IsEntryName name) : SpellsEntry name name :=
  ⟨h, [], by simp, by simp⟩

theorem componentOf?_false_eq_none_iff {part : List Char} :
    componentOf? false part = none ↔ part = [] ∨ part = ['.'] := by
  unfold componentOf?
  split <;> simp_all

theorem componentOf?_eq_name_iff {isFirst : Bool} {part : List Char} {name : String} :
    componentOf? isFirst part = some (.name name) ↔
      name = String.ofList part ∧ name ≠ "" ∧ name ≠ "." ∧ name ≠ ".." := by
  have hofList : ∀ text : String, String.ofList part = text ↔ part = text.toList := by
    intro text
    rw [← String.toList_inj, String.toList_ofList]
  constructor
  · intro h
    unfold componentOf? at h
    split at h
    · cases h
    · split at h <;> cases h
    · cases h
    · next hempty hcurrent hparent =>
      obtain rfl : String.ofList part = name := by simpa using h
      exact ⟨rfl, (hofList "").not.2 hempty, (hofList ".").not.2 hcurrent,
        (hofList "..").not.2 hparent⟩
  · rintro ⟨rfl, hempty, hcurrent, hparent⟩
    unfold componentOf?
    split
    · exact absurd rfl hempty
    · exact absurd rfl hcurrent
    · exact absurd rfl hparent
    · rfl

theorem filterMap_eq_nil_iff {parts : List (List Char)} :
    parts.filterMap (componentOf? false) = [] ↔ ∀ part ∈ parts, part = [] ∨ part = ['.'] := by
  simp only [List.filterMap_eq_nil_iff, componentOf?_false_eq_none_iff]

/-- The component that a path begins with, if there is one. -/
def start? (first : List Char) (rest : List (List Char)) : Option Component :=
  if first.isEmpty && !rest.isEmpty then some .root else componentOf? true first

theorem components_eq {path : String} {first : List Char} {rest : List (List Char)}
    (h : splitAtEach '/' path.toList = first :: rest) :
    components path = (start? first rest).toList ++ rest.filterMap (componentOf? false) := by
  simp only [components, h, start?]

/-- A path that begins with nothing is empty, and one that begins with a name does not
begin at the root. -/
theorem start?_cases (first : List Char) (rest : List (List Char)) :
    (first = [] ∧ rest = [] ∧ start? first rest = none) ∨
      start? first rest = some .root ∨
      ∃ c, start? first rest = some c ∧ componentOf? true first = some c := by
  cases first with
  | nil =>
      cases rest with
      | nil => exact Or.inl ⟨rfl, rfl, rfl⟩
      | cons part rest => exact Or.inr (Or.inl rfl)
  | cons c cs =>
      have hsome : ∃ component, componentOf? true (c :: cs) = some component := by
        unfold componentOf?
        split <;> simp_all
      obtain ⟨component, hcomponent⟩ := hsome
      exact Or.inr (Or.inr ⟨component, hcomponent, hcomponent⟩)

theorem IsEntryName.componentOf?_eq {name : String} (h : IsEntryName name) (isFirst : Bool) :
    componentOf? isFirst name.toList = some (.name name) :=
  componentOf?_eq_name_iff.2
    ⟨String.ofList_toList.symm, h.ne_empty, h.ne_current, h.ne_parent⟩

/-- Behind the name, the parts of a spelling are no components. -/
theorem SpellsEntry.exists_split {path name : String} (h : SpellsEntry path name) :
    ∃ idle, splitAtEach '/' path.toList = name.toList :: idle ∧
      idle.filterMap (componentOf? false) = [] := by
  obtain ⟨hname, idle, hidle, hpath⟩ := h
  have hnone : ∀ part ∈ idle, '/' ∉ part := by
    intro part hpart
    rcases hidle part hpart with rfl | rfl <;> decide
  exact ⟨idle, splitAtEach_eq_cons_iff.2 ⟨hpath, hname.separator_notMem, hnone⟩,
    filterMap_eq_nil_iff.2 hidle⟩

theorem components_eq_singleton_iff {path name : String} :
    components path = [.name name] ↔ SpellsEntry path name := by
  constructor
  · intro h
    obtain ⟨first, rest, hsplit⟩ :=
      List.exists_cons_of_ne_nil (splitAtEach_ne_nil '/' path.toList)
    obtain ⟨hpath, hfirst, -⟩ := splitAtEach_eq_cons_iff.1 hsplit
    rw [components_eq hsplit] at h
    rcases start?_cases first rest with ⟨-, rfl, hstart⟩ | hstart | ⟨c, hstart, hc⟩
    · simp [hstart] at h
    · simp [hstart] at h
    · rw [hstart, Option.toList_some, List.singleton_append, List.cons.injEq] at h
      obtain ⟨rfl, hidle⟩ := h
      obtain ⟨rfl, hempty, hcurrent, hparent⟩ := componentOf?_eq_name_iff.1 hc
      exact ⟨⟨hempty, hcurrent, hparent, by rwa [String.toList_ofList]⟩, rest,
        filterMap_eq_nil_iff.1 hidle, by rw [hpath, String.toList_ofList]⟩
  · intro h
    obtain ⟨idle, hsplit, hidle⟩ := h.exists_split
    have hne : name.toList.isEmpty = false := by simpa using h.1.ne_empty
    have hstart : start? name.toList idle = some (.name name) := by
      rw [start?, hne, h.1.componentOf?_eq true]
      rfl
    rw [components_eq hsplit, hstart, hidle]
    rfl

/-- A spelling without separators is the name itself. -/
theorem SpellsEntry.eq_of_notMem {path name : String} (h : SpellsEntry path name)
    (hnone : '/' ∉ path.toList) : path = name := by
  obtain ⟨-, idle, -, hpath⟩ := h
  cases idle with
  | nil => exact String.toList_injective (by simpa using hpath)
  | cons part idle =>
      refine absurd ?_ hnone
      rw [hpath, List.flatMap_cons]
      simp

theorem isPlainName_iff {path : String} :
    isPlainName path = true ↔ ∃ name, SpellsEntry path name := by
  simp only [← components_eq_singleton_iff]
  unfold isPlainName
  split
  · next name h => exact iff_of_true rfl ⟨name, h⟩
  · next h =>
    refine iff_of_false Bool.false_ne_true ?_
    rintro ⟨name, hname⟩
    exact h name hname

/-! ## Joining -/

/-- The components of a path below a directory follow those of the directory. -/
theorem components_append (base path : String) :
    components (base ++ "/" ++ path) =
      components (base ++ "/") ++ (splitAtEach '/' path.toList).filterMap (componentOf? false) := by
  obtain ⟨first, rest, hsplit⟩ :=
    List.exists_cons_of_ne_nil (splitAtEach_ne_nil '/' base.toList)
  have hall (tail : String) : splitAtEach '/' (base ++ "/" ++ tail).toList =
      first :: (rest ++ splitAtEach '/' tail.toList) := by
    have hchars : (base ++ "/" ++ tail).toList = base.toList ++ '/' :: tail.toList := by simp
    rw [hchars, splitAtEach_append, hsplit, List.cons_append]
  have hstart (tail : String) : start? first (rest ++ splitAtEach '/' tail.toList) =
      start? first (rest ++ [[]]) := by
    have hne : (rest ++ splitAtEach '/' tail.toList).isEmpty = false := by
      simp [splitAtEach_ne_nil]
    rw [start?, start?, hne]
    simp
  have hbase := hall ""
  rw [String.append_empty] at hbase
  rw [components_eq (hall path), components_eq hbase, hstart path, hstart ""]
  simp [splitAtEach, componentOf?]

theorem components_append_separator {base : String} (hne : base ≠ "") :
    components (base ++ "/") = components base := by
  obtain ⟨first, rest, hsplit⟩ :=
    List.exists_cons_of_ne_nil (splitAtEach_ne_nil '/' base.toList)
  have hchars : (base ++ "/").toList = base.toList ++ ['/'] := by simp
  have hsplit' : splitAtEach '/' (base ++ "/").toList = first :: (rest ++ [[]]) := by
    rw [hchars, splitAtEach_append, hsplit]
    rfl
  have hstart : start? first (rest ++ [[]]) = start? first rest := by
    cases first with
    | nil =>
        cases rest with
        | nil => exact absurd (String.toList_injective (splitAtEach_eq_cons_iff.1 hsplit).1) hne
        | cons part rest => rfl
    | cons c cs => rfl
  rw [components_eq hsplit', components_eq hsplit, hstart, List.filterMap_append]
  simp [componentOf?]

theorem SpellsEntry.isAbsolute_eq_false {path name : String} (h : SpellsEntry path name) :
    isAbsolute path = false := by
  obtain ⟨hname, idle, -, hpath⟩ := h
  obtain ⟨c, cs, hchars⟩ := List.exists_cons_of_ne_nil
    (show name.toList ≠ [] by simpa using hname.ne_empty)
  have hne : c ≠ '/' := by
    rintro rfl
    exact hname.separator_notMem (hchars ▸ List.mem_cons_self)
  rw [isAbsolute, hpath, hchars, List.cons_append, List.head?_cons]
  simpa using hne

/-- A spelling of an entry, seen from a directory, leads to the entry of the directory. -/
theorem components_join (directory : String) {path name : String} (h : SpellsEntry path name) :
    components (join directory path) = components directory ++ [.name name] := by
  obtain ⟨idle, hsplit, hidle⟩ := h.exists_split
  have hparts : (splitAtEach '/' path.toList).filterMap (componentOf? false) = [.name name] := by
    rw [hsplit, List.filterMap_cons_some (h.1.componentOf?_eq false), hidle]
  unfold join
  rw [h.isAbsolute_eq_false, Bool.false_or]
  split
  · next hempty =>
    rw [components_eq_singleton_iff.2 h, String.isEmpty_iff.1 hempty]
    rfl
  · next hne =>
    split
    · next hlast =>
      obtain ⟨chars, hchars⟩ := List.getLast?_eq_some_iff.1 (eq_of_beq hlast)
      have hdirectory : directory = String.ofList chars ++ "/" := by
        apply String.toList_injective
        simpa using hchars
      rw [hdirectory, components_append, hparts]
    · rw [components_append, hparts, components_append_separator (by simpa using hne)]

end ZoneGuard.Files
