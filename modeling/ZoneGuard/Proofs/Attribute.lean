import Mathlib
import ZoneGuard.Attribute

/-!
# Spellings of attributes

Spellings of different members of an enumeration differ in more than the case of
their letters.  So a text that agrees with a spelling up to case names the same
member as the spelling itself, and the search for exact spellings, which comes
first, never gives another member than the search that ignores case.
-/

namespace ZoneGuard.Attribute

/-- Spellings of different members differ in more than case. -/
class Unambiguous (α : Type) [Attribute α] : Prop where
  eq_of_sameIgnoringCase : ∀ a ∈ (all : List α), ∀ b ∈ (all : List α),
    ∀ s ∈ spellings a, ∀ t ∈ spellings b, sameIgnoringCase s t = true → a = b

instance : Unambiguous Grade := ⟨by decide +kernel⟩

instance : Unambiguous ZoneType := ⟨by decide +kernel⟩

instance : Unambiguous ContentType := ⟨by decide +kernel⟩

instance : Unambiguous SystemType := ⟨by decide +kernel⟩

instance : Unambiguous AuthType := ⟨by decide +kernel⟩

instance : Unambiguous Isolation := ⟨by decide +kernel⟩

instance : Unambiguous PatchStatus := ⟨by decide +kernel⟩

instance : Unambiguous LifeCycle := ⟨by decide +kernel⟩

instance : Unambiguous SessionPolicy := ⟨by decide +kernel⟩

instance : Unambiguous Protocol := ⟨by decide +kernel⟩

/-- Texts that only differ in case become equal in lower case. -/
theorem sameIgnoringCase_iff {s t : String} : sameIgnoringCase s t = true ↔
    s.toList.map Char.toLower = t.toList.map Char.toLower := by
  rw [sameIgnoringCase, beq_iff_eq]

variable {α : Type} [Attribute α] [Unambiguous α]

/-- A member with a spelling that agrees with the text up to case is the one that is
found, whichever search finds one. -/
theorem ofSpelling?_eq_find? (s : String) : (ofSpelling? s : Option α) =
    all.find? fun a => (spellings a).any (sameIgnoringCase (Text.trim s)) := by
  cases hexact : (all : List α).find? fun a => (spellings a).contains (Text.trim s) with
  | none => simp only [ofSpelling?, hexact]
  | some a =>
      have hspelling : Text.trim s ∈ spellings a := by simpa using List.find?_some hexact
      have hany : (spellings a).any (sameIgnoringCase (Text.trim s)) = true :=
        List.any_eq_true.2 ⟨_, hspelling, sameIgnoringCase_iff.2 rfl⟩
      have hmem := List.mem_of_find?_eq_some hexact
      cases hloose : (all : List α).find? fun a =>
          (spellings a).any (sameIgnoringCase (Text.trim s)) with
      | none => exact absurd hany (List.find?_eq_none.1 hloose a hmem)
      | some b =>
          have hloosely := List.find?_some hloose
          obtain ⟨t, ht, hsame⟩ := List.any_eq_true.1 hloosely
          have heq : a = b := Unambiguous.eq_of_sameIgnoringCase a hmem b
            (List.mem_of_find?_eq_some hloose) _ hspelling t ht hsame
          simp only [ofSpelling?, hexact, heq]

/-- Blanks around a text and the case of its letters do not matter. -/
theorem ofSpelling?_eq_of_sameIgnoringCase {s t : String}
    (h : sameIgnoringCase (Text.trim s) (Text.trim t) = true) :
    (ofSpelling? s : Option α) = ofSpelling? t := by
  have hpred : sameIgnoringCase (Text.trim s) = sameIgnoringCase (Text.trim t) := by
    funext u
    rw [sameIgnoringCase, sameIgnoringCase, sameIgnoringCase_iff.1 h]
  rw [ofSpelling?_eq_find?, ofSpelling?_eq_find?, hpred]

example : (ofSpelling? " idpw\n" : Option AuthType) = ofSpelling? "ID_PW" := by decide +kernel

end ZoneGuard.Attribute
