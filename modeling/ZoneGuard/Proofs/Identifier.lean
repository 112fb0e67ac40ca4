import Mathlib
import ZoneGuard.Identifier

/-!
# Identifiers, atoms and labels

An identifier is its own normal form, an atom determines the kind and the
identifier it was made from, and an engine's decoration of an atom (a namespace
in front, a number behind) is taken away again by cleaning the label.
-/

namespace ZoneGuard

/-! ## Characters of identifiers -/

theorem isWordChar_of_isAlpha {c : Char} (h : c.isAlpha = true) : isWordChar c = true := by
  simp [isWordChar, Char.isAlphanum, h]

theorem isWordChar_of_isDigit {c : Char} (h : c.isDigit = true) : isWordChar c = true := by
  simp [isWordChar, Char.isAlphanum, h]

theorem toWordChar_of_isWordChar {c : Char} (h : isWordChar c = true) : toWordChar c = c :=
  if_pos h

theorem IsIdentifier.isWordChar {cs : List Char} (h : IsIdentifier cs) :
    ∀ c ∈ cs, isWordChar c = true := by
  cases cs with
  | nil => exact absurd h id
  | cons c cs =>
      intro d hd
      rcases List.mem_cons.1 hd with rfl | hd
      · exact isWordChar_of_isAlpha h.1
      · exact h.2 d hd

theorem IsIdentifier.ne_nil {cs : List Char} (h : IsIdentifier cs) : cs ≠ [] := by
  rintro rfl
  exact h

/-- A text that is an identifier already is not changed. -/
theorem identifierChars_of_isIdentifier {cs : List Char} (h : IsIdentifier cs) :
    identifierChars cs = cs := by
  have hmap : cs.map toWordChar = cs := by
    have hcongr : cs.map toWordChar = cs.map id :=
      List.map_congr_left fun c hc => toWordChar_of_isWordChar (h.isWordChar c hc)
    rw [hcongr, List.map_id]
  unfold identifierChars
  rw [hmap]
  cases cs with
  | nil => exact absurd h id
  | cons c cs => exact if_pos h.1

namespace Identifier

@[ext]
theorem ext {left right : Identifier} (h : left.text = right.text) : left = right := by
  cases left
  cases right
  cases h
  rfl

theorem isWordChar_of_mem (id : Identifier) {c : Char} (h : c ∈ id.text.toList) :
    isWordChar c = true :=
  id.isIdentifier.isWordChar c h

@[simp]
theorem text_ofText (raw : String) :
    (ofText raw).text = String.ofList (identifierChars raw.toList) := rfl

/-- Normalizing leaves the identifiers as they are, and no other text. -/
theorem text_ofText_eq_iff {raw : String} : (ofText raw).text = raw ↔ IsIdentifier raw.toList := by
  constructor
  · intro heq
    rw [← heq]
    exact (ofText raw).isIdentifier
  · intro h
    rw [text_ofText, identifierChars_of_isIdentifier h, String.ofList_toList]

/-- Normalizing is idempotent: an identifier is its own normal form. -/
@[simp]
theorem ofText_text (id : Identifier) : ofText id.text = id := by
  ext1
  exact text_ofText_eq_iff.2 id.isIdentifier

end Identifier

/-! ## Atoms -/

theorem notMem_of_isWordChar {cs : List Char} {d : Char}
    (h : ∀ c ∈ cs, isWordChar c = true) (hd : isWordChar d = false) : d ∉ cs := by
  intro hmem
  rw [h d hmem] at hd
  exact Bool.noConfusion hd

namespace EntityKind

theorem toList_atomLabel (kind : EntityKind) (id : Identifier) :
    (kind.atomLabel id).toList = kind.atomPrefix.toList ++ id.text.toList :=
  String.toList_append

theorem isWordChar_of_mem_atomLabel (kind : EntityKind) (id : Identifier) :
    ∀ c ∈ (kind.atomLabel id).toList, isWordChar c = true := by
  intro c hc
  rw [toList_atomLabel] at hc
  rcases List.mem_append.1 hc with hc | hc
  · have hprefix : kind.atomPrefix.toList.all isWordChar = true := by
      cases kind <;> decide
    exact List.all_eq_true.1 hprefix c hc
  · exact id.isWordChar_of_mem hc

/-- The kinds can be told apart by the first letters of their atoms, so only
the prefix of the atom's own kind is taken away. -/
theorem findSome?_isPrefixOf?_atomPrefix (kind : EntityKind) (cs : List Char) :
    EntityKind.all.findSome? (fun other =>
      List.isPrefixOf? other.atomPrefix.toList (kind.atomPrefix.toList ++ cs)) = some cs := by
  cases kind <;>
    simp [EntityKind.all, EntityKind.atomPrefix, EntityKind.signature, List.isPrefixOf?]

end EntityKind

/-- An atom determines the kind of its entity and the identifier. -/
@[simp]
theorem atomLabel_inj {kind kind' : EntityKind} {id id' : Identifier} :
    kind.atomLabel id = kind'.atomLabel id' ↔ kind = kind' ∧ id = id' := by
  constructor
  · intro heq
    have hchars := congrArg String.toList heq
    rw [EntityKind.toList_atomLabel, EntityKind.toList_atomLabel] at hchars
    have hstripped := EntityKind.findSome?_isPrefixOf?_atomPrefix kind id.text.toList
    rw [hchars, EntityKind.findSome?_isPrefixOf?_atomPrefix] at hstripped
    have hid : id = id' :=
      Identifier.ext (String.toList_injective (Option.some.inj hstripped).symm)
    subst hid
    refine ⟨?_, rfl⟩
    have hprefix := List.append_cancel_right hchars
    revert hprefix
    cases kind <;> cases kind' <;> decide
  · rintro ⟨rfl, rfl⟩
    rfl

/-! ## Labels -/

/-- A namespace that ends in the separator is cut off. -/
theorem afterLast_append {d : Char} {before cs : List Char}
    (hbefore : before = [] ∨ before.getLast? = some d) (hcs : d ∉ cs) :
    Text.afterLast d (before ++ cs) = cs := by
  have hall : ∀ c ∈ cs.reverse, (c != d) = true := by
    intro c hc
    exact bne_iff_ne.2 fun heq => hcs (heq ▸ List.mem_reverse.1 hc)
  rw [Text.afterLast, List.reverse_append, List.takeWhile_append_of_pos hall]
  rcases hbefore with rfl | hlast
  · simp
  · rw [← List.head?_reverse] at hlast
    obtain ⟨rest, hrest⟩ := List.head?_eq_some_iff.1 hlast
    simp [hrest]

/-- A suffix that begins with the separator is cut off. -/
theorem beforeFirst_append {d : Char} {cs after : List Char}
    (hcs : d ∉ cs) (hafter : after = [] ∨ after.head? = some d) :
    Text.beforeFirst d (cs ++ after) = cs := by
  have hall : ∀ c ∈ cs, (c != d) = true := by
    intro c hc
    exact bne_iff_ne.2 fun heq => hcs (heq ▸ hc)
  rw [Text.beforeFirst, List.takeWhile_append_of_pos hall]
  rcases hafter with rfl | hhead
  · simp
  · obtain ⟨rest, hrest⟩ := List.head?_eq_some_iff.1 hhead
    simp [hrest]

/-- Cleaning takes away a namespace in front of an atom and a number behind it,
and the prefix of the atom's kind. -/
theorem cleanLabel_append_atomLabel (kind : EntityKind) (id : Identifier)
    {space number : String} (hspace : space.toList = [] ∨ space.toList.getLast? = some '/')
    (hnumber : number.toList = [] ∨ number.toList.head? = some '$')
    (hslash : '/' ∉ number.toList) :
    cleanLabel (space ++ kind.atomLabel id ++ number) = id.text := by
  have hword := kind.isWordChar_of_mem_atomLabel id
  have htail : '/' ∉ (kind.atomLabel id).toList ++ number.toList := by
    rw [List.mem_append, not_or]
    exact ⟨notMem_of_isWordChar hword (by decide), hslash⟩
  rw [cleanLabel, cleanLabelChars, String.toList_append, String.toList_append,
    List.append_assoc, afterLast_append hspace htail,
    beforeFirst_append (notMem_of_isWordChar hword (by decide)) hnumber,
    EntityKind.toList_atomLabel]
  simp only [EntityKind.findSome?_isPrefixOf?_atomPrefix, Option.getD_some,
    String.ofList_toList]

/-- Whatever an engine writes around an atom, cleaning the label gives the
identifier back, and no two entities share an atom.  An identifier is what
normalizing makes of a text, and it is its own normal form. -/
theorem cleanLabel_atomLabel_and_text_ofText_eq_iff :
    (∀ (raw : String) (kind : EntityKind) (space number : String),
      (space = "" ∨ ∃ front, space = front ++ "/") →
      (number = "" ∨ ∃ tail, number = "$" ++ tail ∧ '/' ∉ tail.toList) →
      cleanLabel (space ++ kind.atomLabel (.ofText raw) ++ number) =
        (Identifier.ofText raw).text) ∧
    Function.Injective (Function.uncurry EntityKind.atomLabel) ∧
    (∀ raw, IsIdentifier (Identifier.ofText raw).text.toList) ∧
    (∀ raw, (Identifier.ofText raw).text = raw ↔ IsIdentifier raw.toList) ∧
    ∀ raw, Identifier.ofText (Identifier.ofText raw).text = Identifier.ofText raw := by
  refine ⟨?_, ?_, ?_, ?_, ?_⟩
  · intro raw kind space number hspace hnumber
    have hspace' : space.toList = [] ∨ space.toList.getLast? = some '/' := by
      rcases hspace with rfl | ⟨front, rfl⟩
      · exact Or.inl rfl
      · exact Or.inr (by simp)
    have hnumber' : number.toList = [] ∨ number.toList.head? = some '$' := by
      rcases hnumber with rfl | ⟨tail, rfl, -⟩
      · exact Or.inl rfl
      · exact Or.inr (by simp)
    have hslash : '/' ∉ number.toList := by
      rcases hnumber with rfl | ⟨tail, rfl, htail⟩
      · simp
      · simpa using htail
    exact cleanLabel_append_atomLabel kind (.ofText raw) hspace' hnumber' hslash
  · rintro ⟨kind, id⟩ ⟨kind', id'⟩ heq
    obtain ⟨rfl, rfl⟩ := atomLabel_inj.1 heq
    rfl
  · intro raw
    exact (Identifier.ofText raw).isIdentifier
  · intro raw
    exact Identifier.text_ofText_eq_iff
  · intro raw
    exact Identifier.ofText_text (.ofText raw)

theorem cleanLabel_atomLabel_and_text_ofText_eq_iff_nestedPrefixes :
    EntityKind.data.atomLabel (.ofText "System_Data_x y") = "Data_System_Data_x_y" ∧
      ("a$b/this/" = "" ∨ ∃ front, "a$b/this/" = front ++ "/") ∧
      ("$0$1" = "" ∨ ∃ tail, "$0$1" = "$" ++ tail ∧ '/' ∉ tail.toList) ∧
      cleanLabel "a$b/this/Data_System_Data_x_y$0$1" = "System_Data_x_y" := by
  have hlabel : EntityKind.data.atomLabel (.ofText "System_Data_x y") = "Data_System_Data_x_y" := by
    decide +kernel
  have hspace : "a$b/this/" = "" ∨ ∃ front, "a$b/this/" = front ++ "/" :=
    Or.inr ⟨"a$b/this", by decide⟩
  have hnumber : "$0$1" = "" ∨ ∃ tail, "$0$1" = "$" ++ tail ∧ '/' ∉ tail.toList :=
    Or.inr ⟨"0$1", by decide, by decide⟩
  have hclean := cleanLabel_atomLabel_and_text_ofText_eq_iff.1 "System_Data_x y" .data
    "a$b/this/" "$0$1" hspace hnumber
  rw [hlabel] at hclean
  exact ⟨hlabel, hspace, hnumber, hclean.trans (by decide +kernel)⟩

end ZoneGuard
