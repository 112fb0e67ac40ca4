import Mathlib
import ZoneGuard.Proofs.Attribute
import ZoneGuard.Proofs.References

/-!
# Other spellings of a value

A field is read in one of four ways: as an id, as a list of references, as a member
of an enumeration or as a truth value.  Each way leaves some freedom in how a value
is written, and none of them looks at the keys of an object.
-/

namespace ZoneGuard

open Attribute (Unambiguous sameIgnoringCase)
open Json (Value Number)

/-- How the value of a field is read. -/
inductive FieldUse where
  | id
  | references
  | member
  | flag
deriving DecidableEq

/-- How the field with the given name is read. -/
def fieldUse (name : String) : FieldUse :=
  if ["id", "location", "from", "to"].contains name then .id
  else if ["stores", "carries"].contains name then .references
  else if ["grade", "type", "fileType", "authType", "isolation", "patchStatus", "lifeCycle",
    "sessionPolicy", "protocol"].contains name then .member
  else .flag

/-! ## Rewrites -/

/-- A key is added to an object, which may stand anywhere in the value. -/
inductive AddsKey : Value → Value → Prop where
  | here (before after : List (String × Value)) (key : String) (v : Value) :
      AddsKey (.object (before ++ after)) (.object (before ++ (key, v) :: after))
  | member (before after : List (String × Value)) (key : String) {v v' : Value}
      (h : AddsKey v v') :
      AddsKey (.object (before ++ (key, v) :: after)) (.object (before ++ (key, v') :: after))
  | item (before after : List Value) {v v' : Value} (h : AddsKey v v') :
      AddsKey (.array (before ++ v :: after)) (.array (before ++ v' :: after))

/-- A rewrite of a value that is read in the given way, or not at all: a number as its
text, an array of references as one text, letters in another case and other blanks
around the name of a member, or one more key of an object. -/
inductive ValueRewrite : Option FieldUse → Value → Value → Prop where
  | id (n : Number) : ValueRewrite (some .id) (.number n) (.string n.text)
  | reference (n : Number) : ValueRewrite (some .references) (.number n) (.string n.text)
  | referenceItem (before after : List Value) (n : Number) :
      ValueRewrite (some .references) (.array (before ++ .number n :: after))
        (.array (before ++ .string n.text :: after))
  | joined {refs padded : List String} (h : List.Forall₂ IsPaddedReference refs padded) :
      ValueRewrite (some .references) (Value.ofTexts refs) (.string (",".intercalate padded))
  | spelling {s s' : String} (h : sameIgnoringCase (Text.trim s) (Text.trim s') = true) :
      ValueRewrite (some .member) (.string s) (.string s')
  | addKey (use? : Option FieldUse) {v v' : Value} (h : AddsKey v v') : ValueRewrite use? v v'

/-! ## What is read -/

/-- Two values, either of which may be absent, are read as the same. -/
def FieldUse.Agree : FieldUse → Option Value → Option Value → Prop
  | .id, v, v' => v.bind idText? = v'.bind idText?
  | .references, v, v' => referenceTexts v = referenceTexts v'
  | .member, v, v' => ∀ {α : Type} [Attribute α] [Unambiguous α] (default : α),
      attributeOr default v = attributeOr default v'
  | .flag, v, v' => ∀ default : Bool, flagOr default v = flagOr default v'

theorem FieldUse.agree_refl (use : FieldUse) (v : Option Value) : use.Agree v v := by
  cases use with
  | id => exact rfl
  | references => exact rfl
  | member => intro α _ _ default; exact rfl
  | flag => intro default; exact rfl

theorem AddsKey.idText?_eq {v v' : Value} (h : AddsKey v v') : idText? v = idText? v' := by
  cases h <;> rfl

theorem AddsKey.referenceTexts_eq {v v' : Value} (h : AddsKey v v') :
    referenceTexts (some v) = referenceTexts (some v') := by
  cases h with
  | here => rfl
  | member => rfl
  | item before after h =>
      simp only [referenceTexts, List.filterMap_append, List.filterMap_cons, h.idText?_eq]

/-- A value and the same with a key added are used alike. -/
theorem AddsKey.agree {v v' : Value} (h : AddsKey v v') (use : FieldUse) :
    use.Agree (some v) (some v') := by
  cases use with
  | id => exact h.idText?_eq
  | references => exact h.referenceTexts_eq
  | member => intro α _ _ default; cases h <;> rfl
  | flag => intro default; cases h <;> rfl

/-- A value and its rewrite are used alike. -/
theorem ValueRewrite.agree {use : FieldUse} {v v' : Value} (h : ValueRewrite (some use) v v') :
    use.Agree (some v) (some v') := by
  cases h with
  | id n => exact rfl
  | reference n => exact (isReference_text n).referenceTexts_eq.symm
  | referenceItem before after n =>
      simp only [FieldUse.Agree, referenceTexts, List.filterMap_append, List.filterMap_cons,
        idText?]
  | joined h => exact (referenceTexts_ofTexts _).trans (referenceTexts_intercalate h).symm
  | spelling h =>
      intro α _ _ default
      exact congrArg (Option.getD · default) (Attribute.ofSpelling?_eq_of_sameIgnoringCase h)
  | addKey _ h => exact h.agree use

theorem AddsKey.ne_null {v v' : Value} (h : AddsKey v v') : v ≠ .null ∧ v' ≠ .null := by
  cases h <;> exact ⟨nofun, nofun⟩

/-- Rewrites do not touch what is absent. -/
theorem ValueRewrite.ne_null {use? : Option FieldUse} {v v' : Value}
    (h : ValueRewrite use? v v') : v ≠ .null ∧ v' ≠ .null := by
  cases h with
  | addKey _ h => exact h.ne_null
  | _ => exact ⟨nofun, nofun⟩

end ZoneGuard
