import Mathlib
import ZoneGuard.Proofs.Spec.Values
import ZoneGuard.Spec.Compile

/-!
# Entities in the lines of a specification

What a specification says of one entity is a short run of lines.  A
`Description` is the content of such a run: the kind and the identifier of the
entity, whether it is marked as inferred, and the values of its fields.  Since
the fields of a kind are fixed, a run of lines shows what it describes and
where it ends.
-/

namespace ZoneGuard

open Attribute (atom)
open Text (IsLine isLine_append)

/-- What the lines of an entity say. -/
structure Description where
  kind : EntityKind
  id : Identifier
  inferred : Bool
  values : List (String × String)
deriving DecidableEq

/-- The fields that entities of a kind have, in the order of their lines. -/
def EntityKind.fieldNames : EntityKind → List String
  | .location => ["grade", "type"]
  | .data => ["grade", "fileType"]
  | .system =>
    ["grade", "loc", "type", "authType", "isCDS", "isRegistered", "isStorageEncrypted",
     "isManagement", "isolation", "hasMDM", "patchStatus", "lifeCycle", "hasAuditLogging",
     "hasSecureClock", "sessionPolicy", "stores"]
  | .connection =>
    ["from", "to", "carries", "protocol", "isEncrypted", "hasCDR", "hasDLP", "hasAntiVirus"]

theorem isLine_of_mem_fieldNames (kind : EntityKind) :
    ∀ name ∈ kind.fieldNames, IsLine name := by
  cases kind <;> decide

namespace Description

/-- The first line of an entity's signature. -/
def signatureLine (kind : EntityKind) (id : Identifier) : String :=
  "one sig " ++ kind.atomLabel id ++ " extends " ++ kind.signature ++ " \x7b\x7d"

def inferredLine (id : Identifier) : String := "// " ++ ("inferred from reference: " ++ id.text)

def valueLine (kind : EntityKind) (id : Identifier) (value : String × String) : String :=
  Spec.indent (kind.atomLabel id ++ "." ++ value.1 ++ " = " ++ value.2)

def bodyLines (d : Description) : List String :=
  signatureLine d.kind d.id :: "fact \x7b" ::
    d.values.map (valueLine d.kind d.id) ++ ["\x7d", ""]

def lines (d : Description) : List String :=
  if d.inferred then inferredLine d.id :: d.bodyLines else d.bodyLines

/-- The fields are those of the kind, and no value holds a line feed. -/
structure IsProper (d : Description) : Prop where
  fields : d.values.map (·.1) = d.kind.fieldNames
  isLine : ∀ value ∈ d.values, IsLine value.2

/-! ## Reading the lines -/

/-- A signature shows the entity it declares. -/
theorem signatureLine_inj {kind kind' : EntityKind} {id id' : Identifier} :
    signatureLine kind id = signatureLine kind' id' ↔ kind = kind' ∧ id = id' := by
  constructor
  · intro heq
    have hchars := congrArg String.toList heq
    have hspace : " extends ".toList = ' ' :: "extends ".toList := rfl
    simp only [signatureLine, String.toList_append, List.append_assoc, hspace] at hchars
    have hatoms := List.append_cancel_left hchars
    rw [List.cons_append, List.cons_append, Text.append_cons_eq_iff
      (notMem_of_isWordChar (kind.isWordChar_of_mem_atomLabel id) (by decide))
      (notMem_of_isWordChar (kind'.isWordChar_of_mem_atomLabel id') (by decide))] at hatoms
    exact atomLabel_inj.1 (String.toList_injective hatoms.1)
  · rintro ⟨rfl, rfl⟩
    rfl

theorem inferredLine_ne_signatureLine (id : Identifier) (kind : EntityKind)
    (id' : Identifier) : inferredLine id ≠ signatureLine kind id' := by
  intro heq
  have hchars := congrArg (fun line : String => line.toList.head?) heq
  simp [inferredLine, signatureLine] at hchars

/-- Lines that bind the same fields of the same entity show the values. -/
theorem values_eq_of_map_valueLine_eq {kind : EntityKind} {id : Identifier}
    {left right : List (String × String)}
    (hfields : left.map (·.1) = right.map (·.1))
    (heq : left.map (valueLine kind id) = right.map (valueLine kind id)) : left = right := by
  induction left generalizing right with
  | nil =>
      cases right with
      | nil => rfl
      | cons value right => simp at hfields
  | cons value left ih =>
      cases right with
      | nil => simp at hfields
      | cons value' right =>
          simp only [List.map_cons, List.cons.injEq] at hfields heq
          obtain ⟨field, text⟩ := value
          obtain ⟨field', text'⟩ := value'
          obtain ⟨rfl, hfields⟩ := hfields
          obtain ⟨hline, heq⟩ := heq
          have htext : text = text' := by
            have hchars := congrArg String.toList hline
            simp only [valueLine, Spec.indent, String.toList_append] at hchars
            exact String.toList_injective
              (List.append_cancel_left (List.append_cancel_left hchars))
          rw [htext, ih hfields heq]

/-- A description can be read off from the lines it begins. -/
theorem bodyLines_append_eq {d d' : Description} (h : d.IsProper) (h' : d'.IsProper)
    {us vs : List String} (heq : d.bodyLines ++ us = d'.bodyLines ++ vs) :
    d.kind = d'.kind ∧ d.id = d'.id ∧ d.values = d'.values ∧ us = vs := by
  obtain ⟨kind, id, inferred, values⟩ := d
  obtain ⟨kind', id', inferred', values'⟩ := d'
  simp only [bodyLines, List.cons_append, List.append_assoc, List.cons.injEq] at heq
  obtain ⟨hsignature, -, hrest⟩ := heq
  obtain ⟨rfl, rfl⟩ := signatureLine_inj.1 hsignature
  have hfields : values.map (·.1) = values'.map (·.1) := h.fields.trans h'.fields.symm
  have hlength : (values.map (valueLine kind id)).length =
      (values'.map (valueLine kind id)).length := by
    simpa using congrArg List.length hfields
  obtain ⟨hlines, htail⟩ := List.append_inj hrest hlength
  exact ⟨rfl, rfl, values_eq_of_map_valueLine_eq hfields hlines, by simpa using htail⟩

/-- The lines of an entity show what they describe and where they end. -/
theorem lines_append_eq {d d' : Description} (h : d.IsProper) (h' : d'.IsProper)
    {us vs : List String} (heq : d.lines ++ us = d'.lines ++ vs) : d = d' ∧ us = vs := by
  obtain ⟨kind, id, inferred, values⟩ := d
  obtain ⟨kind', id', inferred', values'⟩ := d'
  cases inferred with
  | false =>
      cases inferred' with
      | false =>
          obtain ⟨rfl, rfl, rfl, rfl⟩ := bodyLines_append_eq h h' heq
          exact ⟨rfl, rfl⟩
      | true =>
          have hhead := (List.cons.inj heq).1
          exact absurd hhead.symm (inferredLine_ne_signatureLine id' kind id)
  | true =>
      cases inferred' with
      | false =>
          have hhead := (List.cons.inj heq).1
          exact absurd hhead (inferredLine_ne_signatureLine id kind' id')
      | true =>
          obtain ⟨rfl, rfl, rfl, rfl⟩ := bodyLines_append_eq h h' (List.cons.inj heq).2
          exact ⟨rfl, rfl⟩

theorem lines_ne_nil (d : Description) : d.lines ≠ [] := by
  unfold lines bodyLines
  split <;> simp

/-- A description has no line feeds within its lines. -/
theorem isLine_of_mem_lines {d : Description} (h : d.IsProper) :
    ∀ line ∈ d.lines, IsLine line := by
  have hsignature : IsLine (signatureLine d.kind d.id) := by
    have hkind : IsLine d.kind.signature := by
      cases d.kind <;> decide
    simp only [signatureLine, isLine_append, isLine_atomLabel, hkind]
    decide
  have hvalues : ∀ value ∈ d.values, IsLine (valueLine d.kind d.id value) := by
    intro value hvalue
    have hfield : IsLine value.1 :=
      isLine_of_mem_fieldNames d.kind _ (h.fields ▸ List.mem_map_of_mem hvalue)
    simp only [valueLine, Spec.indent, isLine_append, isLine_atomLabel, hfield,
      h.isLine value hvalue]
    decide
  have hbody : ∀ line ∈ d.bodyLines, IsLine line := by
    intro line hline
    simp only [bodyLines, List.cons_append, List.mem_cons, List.mem_append, List.mem_map,
      List.not_mem_nil, or_false] at hline
    rcases hline with rfl | rfl | ⟨value, hvalue, rfl⟩ | rfl | rfl
    · exact hsignature
    · decide
    · exact hvalues value hvalue
    · decide
    · decide
  unfold lines
  split
  · intro line hline
    rcases List.mem_cons.1 hline with rfl | hline
    · have hid : IsLine d.id.text := isLine_of_isWordChar fun c hc => d.id.isWordChar_of_mem hc
      simp only [inferredLine, isLine_append, hid]
      decide
    · exact hbody line hline
  · exact hbody

end Description

end ZoneGuard
