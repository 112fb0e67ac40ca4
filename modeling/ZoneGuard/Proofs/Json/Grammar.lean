import Mathlib
import ZoneGuard.Proofs.Json.Written

/-!
# The grammar of JSON

Which texts without layout are JSON, and for which values.  The compact form of a value is such a
text, whatever its size and however deeply it is nested, as long as its numbers are integers.
-/

namespace ZoneGuard.Json

/-- The text between the quotes stands for the string, character by character. -/
def Spells (w : List Char) (s : String) : Prop :=
  ∃ ws : List (List Char), w = ws.flatten ∧ List.Forall₂ StandsFor s.toList ws

/-- A member as it is written, with its name between quotes. -/
def member (name body : List Char) : List Char := '"' :: (name ++ '"' :: ':' :: body)

/-- The text is JSON for the value, without layout between its parts.  Numbers are integers. -/
inductive Denotes : List Char → Value → Prop
  | null : Denotes "null".toList .null
  | bool (b : Bool) : Denotes (toString b).toList (.bool b)
  | integer (n : Int) : Denotes (toString n).toList (.number (.integer n))
  | string {w : List Char} {s : String} : Spells w s → Denotes ('"' :: (w ++ ['"'])) (.string s)
  | array (parts : List (List Char × Value)) :
    (∀ p ∈ parts, Denotes p.1 p.2) →
    Denotes ('[' :: ([','].intercalate (parts.map (·.1)) ++ [']'])) (.array (parts.map (·.2)))
  | object (parts : List ((List Char × List Char) × (String × Value))) :
    (∀ p ∈ parts, Spells p.1.1 p.2.1) → (∀ p ∈ parts, Denotes p.1.2 p.2.2) →
    Denotes ('\x7b' :: ([','].intercalate (parts.map fun p => member p.1.1 p.1.2) ++ ['\x7d']))
      (.object (parts.map (·.2)))

inductive OnlyIntegers : Value → Prop
  | null : OnlyIntegers .null
  | bool (b : Bool) : OnlyIntegers (.bool b)
  | integer (n : Int) : OnlyIntegers (.number (.integer n))
  | string (s : String) : OnlyIntegers (.string s)
  | array {vs : List Value} : (∀ v ∈ vs, OnlyIntegers v) → OnlyIntegers (.array vs)
  | object {ms : List (String × Value)} : (∀ m ∈ ms, OnlyIntegers m.2) → OnlyIntegers (.object ms)

theorem OnlyIntegers.sorted {v : Value} (h : OnlyIntegers v) : OnlyIntegers v.sorted := by
  induction h with
  | array _ ih =>
    rw [Value.sorted, sortedItems_eq_map]
    refine .array fun v hv => ?_
    obtain ⟨u, hu, rfl⟩ := List.mem_map.1 hv
    exact ih u hu
  | object _ ih =>
    refine .object fun m hm => ?_
    obtain ⟨m, hmem, rfl⟩ := exists_of_mem_sortedMembers hm
    exact ih m hmem
  | null => exact .null
  | bool b => exact .bool b
  | integer n => exact .integer n
  | string s => exact .string s

theorem spells_flatMap_escapeChar (s : String) : Spells (s.toList.flatMap escapeChar) s := by
  refine ⟨s.toList.map escapeChar, List.flatMap_def, ?_⟩
  rw [List.forall₂_map_right_iff, List.forall₂_same]
  exact fun c _ => standsFor_escapeChar c

/-- The compact form of a value is JSON for it. -/
theorem OnlyIntegers.denotes_compact {v : Value} (h : OnlyIntegers v) :
    Denotes v.compact.toList v := by
  induction h with
  | null => exact .null
  | bool b =>
    have hb := Denotes.bool b
    cases b <;> exact hb
  | integer n => exact .integer n
  | string s =>
    rw [Value.compact, toList_stringText]
    exact .string (spells_flatMap_escapeChar s)
  | @array vs _ ih =>
    have hparts := Denotes.array (vs.map fun v => (v.compact.toList, v))
      (List.forall_mem_map.2 ih)
    rw [Value.compact, compactItems_eq_map, bracketed]
    simpa [String.toList_intercalate, Function.comp_def] using hparts
  | @object ms _ ih =>
    have hparts := Denotes.object
      (ms.map fun m => ((m.1.toList.flatMap escapeChar, m.2.compact.toList), m))
      (List.forall_mem_map.2 fun m _ => spells_flatMap_escapeChar m.1) (List.forall_mem_map.2 ih)
    rw [Value.compact, compactMembers_eq_map, bracketed]
    simpa [String.toList_intercalate, Function.comp_def, toList_stringText, stringTail, member]
      using hparts

end ZoneGuard.Json
