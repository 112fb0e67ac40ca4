import Mathlib
import ZoneGuard.Graph.Build

/-!
# Lists of references

A list of references may be an array of texts, or one text with commas between
the references and blanks around them.  References that are not empty, have no
comma and no blank at either end can be told from the text again, and so can the
decimal text of a number, which has neither commas nor blanks.  Of any other value it
is told which references it lists.
-/

namespace ZoneGuard

open Json (Value Number)
open Text (isBlank trimChars splitAtEach)

/-! ## Blanks and commas -/

namespace Text

def IsBlankText (cs : List Char) : Prop := ∀ c ∈ cs, isBlank c = true

theorem dropWhile_isBlank_append {before : List Char} (h : IsBlankText before)
    (cs : List Char) : (before ++ cs).dropWhile isBlank = cs.dropWhile isBlank :=
  List.dropWhile_append_of_pos h

theorem trimChars_append_left {before : List Char} (h : IsBlankText before) (cs : List Char) :
    trimChars (before ++ cs) = trimChars cs := by
  rw [trimChars, trimChars, dropWhile_isBlank_append h]

theorem trimChars_append_right {after : List Char} (h : IsBlankText after) (cs : List Char) :
    trimChars (cs ++ after) = trimChars cs := by
  have hreverse : IsBlankText after.reverse := fun c hc => h c (List.mem_reverse.1 hc)
  rw [trimChars, trimChars, List.dropWhile_append]
  split
  · next hempty =>
    have hcs : cs.dropWhile isBlank = [] := List.isEmpty_iff.1 hempty
    have hafter : after.dropWhile isBlank = [] := List.dropWhile_eq_nil_iff.2 h
    rw [hcs, hafter]
  · rw [List.reverse_append, dropWhile_isBlank_append hreverse]

/-- The characters neither begin nor end with a blank. -/
def IsTrimmed (cs : List Char) : Prop :=
  (∀ c ∈ cs.head?, isBlank c = false) ∧ ∀ c ∈ cs.getLast?, isBlank c = false

theorem dropWhile_isBlank_of_head? {cs : List Char} (h : ∀ c ∈ cs.head?, isBlank c = false) :
    cs.dropWhile isBlank = cs := by
  cases cs with
  | nil => rfl
  | cons c cs => exact List.dropWhile_cons_of_neg (by simp [h c rfl])

/-- What has no blanks at its ends is not trimmed further. -/
theorem trimChars_of_isTrimmed {cs : List Char} (h : IsTrimmed cs) : trimChars cs = cs := by
  have hlast : ∀ c ∈ cs.reverse.head?, isBlank c = false := by
    rw [List.head?_reverse]
    exact h.2
  rw [trimChars, dropWhile_isBlank_of_head? h.1, dropWhile_isBlank_of_head? hlast,
    List.reverse_reverse]

theorem isBlank_of_mem_head?_dropWhile {cs : List Char} {c : Char}
    (h : c ∈ (cs.dropWhile isBlank).head?) : isBlank c = false := by
  have hhead := List.head?_dropWhile_not isBlank cs
  rwa [Option.mem_def.1 h] at hhead

/-- What is left of a text stands between the blanks at its ends. -/
theorem exists_eq_append_trimChars (cs : List Char) : ∃ before after, IsBlankText before ∧
    IsBlankText after ∧ cs = before ++ trimChars cs ++ after := by
  have hblank (ds : List Char) : IsBlankText (ds.takeWhile isBlank) :=
    fun _ => List.mem_takeWhile_imp
  refine ⟨cs.takeWhile isBlank, ((cs.dropWhile isBlank).reverse.takeWhile isBlank).reverse,
    hblank _, fun c hc => hblank _ c (List.mem_reverse.1 hc), ?_⟩
  rw [trimChars, List.append_assoc, ← List.reverse_append, List.takeWhile_append_dropWhile,
    List.reverse_reverse, List.takeWhile_append_dropWhile]

/-- What is trimmed has no blanks at its ends. -/
theorem isTrimmed_trimChars (cs : List Char) : IsTrimmed (trimChars cs) := by
  refine ⟨fun c hc => ?_, fun c hc => ?_⟩
  · -- what is dropped at the end does not move the beginning
    have hend : (cs.dropWhile isBlank).reverse.dropWhile isBlank <:+
        (cs.dropWhile isBlank).reverse := List.dropWhile_suffix isBlank
    obtain ⟨rest, hrest⟩ : trimChars cs <+: cs.dropWhile isBlank := by
      simpa [trimChars] using List.reverse_prefix.2 hend
    have hhead : c ∈ (cs.dropWhile isBlank).head? := by
      rw [← hrest, List.head?_append, Option.mem_def.1 hc]
      rfl
    exact isBlank_of_mem_head?_dropWhile hhead
  · rw [trimChars, List.getLast?_reverse] at hc
    exact isBlank_of_mem_head?_dropWhile hc

theorem trimChars_of_forall {cs : List Char} (h : ∀ c ∈ cs, isBlank c = false) :
    trimChars cs = cs :=
  trimChars_of_isTrimmed
    ⟨fun c hc => h c (List.mem_of_mem_head? hc), fun c hc => h c (List.mem_of_mem_getLast? hc)⟩

section Splitting

variable {separator : Char} {part : List Char}

theorem splitAtEach_of_notMem (h : separator ∉ part) : splitAtEach separator part = [part] := by
  induction part with
  | nil => rfl
  | cons c cs ih =>
      obtain ⟨hne, hcs⟩ := List.ne_and_not_mem_of_not_mem_cons h
      rw [splitAtEach, if_neg hne.symm, ih hcs]

/-- The first part ends at the first separator. -/
theorem splitAtEach_append_cons (h : separator ∉ part) (rest : List Char) :
    splitAtEach separator (part ++ separator :: rest) = part :: splitAtEach separator rest := by
  induction part with
  | nil => rw [List.nil_append, splitAtEach, if_pos rfl]
  | cons c cs ih =>
      obtain ⟨hne, hcs⟩ := List.ne_and_not_mem_of_not_mem_cons h
      rw [List.cons_append, splitAtEach, if_neg hne.symm, ih hcs]

/-- Words are what stands between the separators. -/
theorem splitAtEach_intercalate {words : List String} (hne : words ≠ [])
    (hwords : ∀ word ∈ words, separator ∉ word.toList) :
    splitAtEach separator ((String.singleton separator).intercalate words).toList =
      words.map String.toList := by
  induction words with
  | nil => exact absurd rfl hne
  | cons word words ih =>
      have hword := hwords word List.mem_cons_self
      cases words with
      | nil => simpa using splitAtEach_of_notMem hword
      | cons next words =>
          have htail := ih (List.cons_ne_nil _ _) fun w hw =>
            hwords w (List.mem_cons_of_mem _ hw)
          rw [String.intercalate_cons_cons, String.append_assoc, String.toList_append,
            String.toList_append, String.toList_singleton, List.singleton_append,
            splitAtEach_append_cons hword, htail, List.map_cons (l := next :: words)]

theorem splitAtEach_ne_nil (separator : Char) (cs : List Char) : splitAtEach separator cs ≠ [] := by
  cases cs with
  | nil => exact List.cons_ne_nil _ _
  | cons c cs =>
      rw [splitAtEach]
      split
      · exact List.cons_ne_nil _ _
      · split <;> exact List.cons_ne_nil _ _

/-- The parts between the separators make the text again, and have no separator. -/
theorem intercalate_splitAtEach (separator : Char) (cs : List Char) :
    List.intercalate [separator] (splitAtEach separator cs) = cs ∧
      ∀ part ∈ splitAtEach separator cs, separator ∉ part := by
  induction cs with
  | nil => exact ⟨rfl, by simp [splitAtEach]⟩
  | cons c cs ih =>
      obtain ⟨part, parts, hparts⟩ := List.exists_cons_of_ne_nil (splitAtEach_ne_nil separator cs)
      rw [hparts, List.forall_mem_cons] at ih
      obtain ⟨hjoined, hfirst, hrest⟩ := ih
      by_cases hc : c = separator
      · rw [splitAtEach, if_pos hc, hparts]
        refine ⟨?_, by simpa [hfirst] using hrest⟩
        rw [hc, ← hjoined, List.intercalate_cons_cons]
        rfl
      · rw [splitAtEach, if_neg hc, hparts]
        refine ⟨?_, by simpa [hfirst, Ne.symm hc] using hrest⟩
        rw [← hjoined]
        cases parts with
        | nil => rfl
        | cons next parts =>
            rw [List.intercalate_cons_cons, List.intercalate_cons_cons]
            rfl

/-- A separator parts what stands before it and behind it. -/
theorem splitAtEach_append (xs ys : List Char) :
    splitAtEach separator (xs ++ separator :: ys) =
      splitAtEach separator xs ++ splitAtEach separator ys := by
  induction xs with
  | nil => simp [splitAtEach]
  | cons c xs ih =>
      obtain ⟨part, parts, hparts⟩ := List.exists_cons_of_ne_nil (splitAtEach_ne_nil separator xs)
      rw [List.cons_append, splitAtEach, splitAtEach, ih, hparts]
      split <;> rfl

theorem intercalate_cons_eq_flatMap (part : List Char) (parts : List (List Char)) :
    List.intercalate [separator] (part :: parts) = part ++ parts.flatMap (separator :: ·) := by
  induction parts generalizing part with
  | nil => simp
  | cons next parts ih =>
      rw [List.intercalate_cons_cons, ih next]
      simp

/-- The text is its first part, with a separator before each of the others. -/
theorem splitAtEach_eq_cons_iff {cs first : List Char} {rest : List (List Char)} :
    splitAtEach separator cs = first :: rest ↔
      cs = first ++ rest.flatMap (separator :: ·) ∧ separator ∉ first ∧
        ∀ part ∈ rest, separator ∉ part := by
  constructor
  · intro hsplit
    obtain ⟨hjoined, hnone⟩ := intercalate_splitAtEach separator cs
    rw [hsplit] at hjoined hnone
    obtain ⟨hfirst, hrest⟩ := List.forall_mem_cons.1 hnone
    exact ⟨by rw [← hjoined, intercalate_cons_eq_flatMap], hfirst, hrest⟩
  · rintro ⟨rfl, hfirst, hrest⟩
    induction rest generalizing first with
    | nil => rw [List.flatMap_nil, List.append_nil, splitAtEach_of_notMem hfirst]
    | cons part rest ih =>
        obtain ⟨hpart, hrest⟩ := List.forall_mem_cons.1 hrest
        rw [List.flatMap_cons, List.cons_append, splitAtEach_append_cons hfirst, ih hpart hrest]

end Splitting

end Text

open Text (IsBlankText)

/-! ## References in one text -/

/-- The text is not empty, has no comma, and no blank at either end. -/
structure IsReference (s : String) : Prop where
  ne_nil : s.toList ≠ []
  trimmed : trimChars s.toList = s.toList
  comma_notMem : ',' ∉ s.toList

/-- The second text is a reference with blanks around it. -/
def IsPaddedReference (s padded : String) : Prop :=
  IsReference s ∧ ∃ before after, IsBlankText before ∧ IsBlankText after ∧
    padded.toList = before ++ s.toList ++ after

theorem IsReference.isPaddedReference {s : String} (h : IsReference s) :
    IsPaddedReference s s :=
  ⟨h, [], [], nofun, nofun, by simp⟩

theorem comma_notMem_of_isBlankText {cs : List Char} (h : IsBlankText cs) : ',' ∉ cs :=
  fun hmem => Bool.noConfusion (h _ hmem)

section Padded

variable {s padded : String}

theorem IsPaddedReference.trimChars_eq (h : IsPaddedReference s padded) :
    trimChars padded.toList = s.toList := by
  obtain ⟨hs, before, after, hbefore, hafter, heq⟩ := h
  rw [heq, Text.trimChars_append_right hafter, Text.trimChars_append_left hbefore, hs.trimmed]

theorem IsPaddedReference.comma_notMem (h : IsPaddedReference s padded) :
    ',' ∉ padded.toList := by
  obtain ⟨hs, before, after, hbefore, hafter, heq⟩ := h
  simp [heq, comma_notMem_of_isBlankText hbefore, comma_notMem_of_isBlankText hafter,
    hs.comma_notMem]

end Padded

section References

variable {refs padded : List String}

theorem map_trimChars_of_forall₂ (h : List.Forall₂ IsPaddedReference refs padded) :
    (padded.map String.toList).map trimChars = refs.map String.toList := by
  induction h with
  | nil => rfl
  | cons h _ ih => rw [List.map_cons, List.map_cons, h.trimChars_eq, ih, List.map_cons]

theorem comma_notMem_of_forall₂ (h : List.Forall₂ IsPaddedReference refs padded) :
    ∀ p ∈ padded, ',' ∉ p.toList := by
  induction h with
  | nil => nofun
  | cons h _ ih => exact List.forall_mem_cons.2 ⟨h.comma_notMem, ih⟩

theorem isReference_of_forall₂ (h : List.Forall₂ IsPaddedReference refs padded) :
    ∀ s ∈ refs, IsReference s :=
  ((List.forall₂_and_left _ _).1 h).1

/-- References are read off the text that has them between commas. -/
theorem referenceTexts_intercalate (h : List.Forall₂ IsPaddedReference refs padded) :
    referenceTexts (some (.string (",".intercalate padded))) = refs := by
  by_cases hnil : padded = []
  · subst hnil
    cases h
    decide
  · have hsplit : splitAtEach ',' (",".intercalate padded).toList = padded.map String.toList :=
      Text.splitAtEach_intercalate hnil (comma_notMem_of_forall₂ h)
    have hfilter : (refs.map String.toList).filter (!·.isEmpty) = refs.map String.toList := by
      refine List.filter_eq_self.2 fun cs hcs => ?_
      obtain ⟨s, hs, rfl⟩ := List.mem_map.1 hcs
      simpa using (isReference_of_forall₂ h s hs).ne_nil
    have hback : (refs.map String.toList).map String.ofList = refs := by simp
    simp only [referenceTexts]
    rw [hsplit, map_trimChars_of_forall₂ h, hfilter, hback]

/-- References in an array are read as they are. -/
theorem referenceTexts_ofTexts (refs : List String) :
    referenceTexts (some (Value.ofTexts refs)) = refs := by
  simp [referenceTexts, Value.ofTexts, List.filterMap_map, Function.comp_def, idText?]

end References

theorem IsReference.referenceTexts_eq {s : String} (h : IsReference s) :
    referenceTexts (some (.string s)) = [s] := by
  have hpadded : List.Forall₂ IsPaddedReference [s] [s] := .cons h.isPaddedReference .nil
  simpa using referenceTexts_intercalate hpadded

/-! ## Numbers -/

/-- Whether the character may occur in the decimal text of a number. -/
def isNumeralChar (c : Char) : Bool := c.isDigit || ['.', 'e', '+', '-'].contains c

theorem isBlank_of_isNumeralChar {c : Char} (h : isNumeralChar c = true) :
    isBlank c = false := by
  simp only [isNumeralChar, Bool.or_eq_true, List.contains_iff_mem, List.mem_cons,
    List.not_mem_nil, or_false] at h
  rcases h with hdigit | rfl | rfl | rfl | rfl
  · have hrange : 48 ≤ c.toNat ∧ c.toNat ≤ 57 := by
      simpa [Char.isDigit, UInt32.le_iff_toNat_le] using hdigit
    simp only [isBlank, Bool.or_eq_false_iff, Bool.and_eq_false_iff, decide_eq_false_iff_not,
      beq_eq_false_iff_ne]
    omega
  all_goals decide

theorem isReference_of_all {s : String} (hne : s.toList ≠ [])
    (h : s.toList.all isNumeralChar = true) : IsReference s where
  ne_nil := hne
  trimmed := Text.trimChars_of_forall fun c hc =>
    isBlank_of_isNumeralChar (List.all_eq_true.1 h c hc)
  comma_notMem hmem := Bool.noConfusion (List.all_eq_true.1 h _ hmem)

theorem all_toDigits (n : Nat) : (Nat.toDigits 10 n).all isNumeralChar = true := by
  refine List.all_eq_true.2 fun c hc => ?_
  have hdigit := Nat.isDigit_of_mem_toDigits (by decide) (by decide) hc
  simp [isNumeralChar, hdigit]

theorem all_replicate_zero (n : Nat) : (List.replicate n '0').all isNumeralChar = true :=
  List.all_eq_true.2 fun _ hc => List.eq_of_mem_replicate hc ▸ rfl

theorem all_of_subset {cs ds : List Char} (h : ds.all isNumeralChar = true) (hsub : cs ⊆ ds) :
    cs.all isNumeralChar = true :=
  List.all_eq_true.2 fun c hc => List.all_eq_true.1 h c (hsub hc)

/-- The decimal text of a binary number is its sign and a body of digits, a point and
an exponent. -/
theorem exists_floatText_eq (x : Binary64) : ∃ body : List Char,
    Decimal.floatText x = (if x.negative then "-" else "") ++ String.ofList body ∧
      body ≠ [] ∧ body.all isNumeralChar = true := by
  by_cases hzero : x.isZero = true
  · exact ⟨['0', '.', '0'], by simp only [Decimal.floatText, hzero]; rfl, by decide, rfl⟩
  · refine ⟨_, by simp only [Decimal.floatText, hzero]; rfl, ?_⟩
    have hdigits := all_toDigits (Decimal.shortest x).digits
    generalize Nat.toDigits 10 (Decimal.shortest x).digits = digits at hdigits ⊢
    -- without an exponent: below one, whole, or with the point among the digits
    split
    · refine ⟨by simp, ?_⟩
      simp only [List.all_append, hdigits, all_replicate_zero, Bool.and_true]
      rfl
    split
    · split
      · refine ⟨by simp, ?_⟩
        simp only [List.all_append, hdigits, all_replicate_zero, Bool.true_and]
        rfl
      · refine ⟨by simp, ?_⟩
        simp only [List.all_append, all_of_subset hdigits (List.take_subset _ _),
          all_of_subset hdigits (List.drop_subset _ _), Bool.true_and, Bool.and_true]
        rfl
    · refine ⟨by simp, ?_⟩
      have hsign (e : Int) : ['e', if e < 0 then '-' else '+'].all isNumeralChar = true := by
        split <;> rfl
      rw [List.all_append, List.all_append, hsign, all_toDigits, Bool.and_true, Bool.and_true]
      match digits, hdigits with
      | [], _ => rfl
      | [_], hdigits => exact hdigits
      | d :: d' :: ds, hdigits =>
          have hpoint : isNumeralChar '.' = true := rfl
          simpa only [List.all_cons, hpoint, Bool.true_and] using hdigits

theorem isReference_floatText (x : Binary64) : IsReference (Decimal.floatText x) := by
  obtain ⟨body, heq, hne, hall⟩ := exists_floatText_eq x
  have hsign : (if x.negative then "-" else "").toList.all isNumeralChar = true := by
    split <;> rfl
  apply isReference_of_all
  · simp [heq, hne]
  · rw [heq, String.toList_append, List.all_append, hsign, String.toList_ofList, hall]
    rfl

/-- A number is one reference: its text has no commas and no blanks. -/
theorem isReference_text (n : Number) : IsReference n.text := by
  cases n with
  | float x => exact isReference_floatText x
  | integer i =>
      have htext (n : Nat) : n.repr.toList = Nat.toDigits 10 n := by simp [Nat.repr]
      rw [Number.text, Int.toString_eq_repr, Int.repr_eq_if]
      split
      · apply isReference_of_all
        · rw [htext]
          exact Nat.toDigits_ne_nil
        · rw [htext]
          exact all_toDigits _
      · apply isReference_of_all
        · simp
        · rw [String.toList_append, List.all_append, htext, all_toDigits, Bool.and_true]
          rfl

/-! ## What a list names -/

/-- The text is what is left of the part between the blanks at its ends. -/
def IsTrimOf (s part : String) : Prop :=
  Text.IsTrimmed s.toList ∧ ∃ before after, IsBlankText before ∧ IsBlankText after ∧
    part.toList = before ++ s.toList ++ after

theorem isTrimOf_iff {s part : String} : IsTrimOf s part ↔ s = Text.trim part := by
  constructor
  · rintro ⟨htrimmed, before, after, hbefore, hafter, heq⟩
    rw [Text.trim, heq, Text.trimChars_append_right hafter, Text.trimChars_append_left hbefore,
      Text.trimChars_of_isTrimmed htrimmed, String.ofList_toList]
  · rintro rfl
    rw [IsTrimOf, Text.toList_trim]
    exact ⟨Text.isTrimmed_trimChars _, Text.exists_eq_append_trimChars _⟩

/-- The items list the references: texts and numbers, in their order, and no others. -/
inductive ListsItems : List Value → List String → Prop
  | nil : ListsItems [] []
  | text {items : List Value} {refs : List String} (s : String) (h : ListsItems items refs) :
      ListsItems (.string s :: items) (s :: refs)
  | number {items : List Value} {refs : List String} (n : Number) (h : ListsItems items refs) :
      ListsItems (.number n :: items) (n.text :: refs)
  | other {items : List Value} {refs : List String} {v : Value} (htext : ∀ s, v ≠ .string s)
      (hnumber : ∀ n, v ≠ .number n) (h : ListsItems items refs) : ListsItems (v :: items) refs

theorem listsItems_iff {items : List Value} {refs : List String} :
    ListsItems items refs ↔ refs = items.filterMap idText? := by
  constructor
  · intro h
    induction h with
    | nil => rfl
    | text s _ ih => exact congrArg (List.cons s) ih
    | number n _ ih => exact congrArg (List.cons n.text) ih
    | @other items refs v htext hnumber _ ih =>
        have hnone : idText? v = none := by
          cases v with
          | string s => exact absurd rfl (htext s)
          | number n => exact absurd rfl (hnumber n)
          | _ => rfl
        rw [ih, List.filterMap_cons_none hnone]
  · rintro rfl
    induction items with
    | nil => exact .nil
    | cons v items ih =>
        cases v with
        | string s => exact .text s ih
        | number n => exact .number n ih
        | _ => exact .other (by simp) (by simp) ih

/-- The value lists the references.  An array lists the texts of its items that are
texts or numbers, a text lists what stands between its commas, without blanks at the
ends and if there is anything else, and a number lists itself. -/
inductive ListsReferences : Option Value → List String → Prop
  | items {items : List Value} {refs : List String} (h : ListsItems items refs) :
      ListsReferences (some (.array items)) refs
  | parts {parts trimmed : List String} (hcomma : ∀ part ∈ parts, ',' ∉ part.toList)
      (htrimmed : List.Forall₂ IsTrimOf trimmed parts) :
      ListsReferences (some (.string (",".intercalate parts))) (trimmed.filter (· ≠ ""))
  | number (n : Number) : ListsReferences (some (.number n)) [n.text]
  | absent : ListsReferences none []
  | null : ListsReferences (some .null) []
  | bool (b : Bool) : ListsReferences (some (.bool b)) []
  | object (members : List (String × Value)) : ListsReferences (some (.object members)) []

theorem forall₂_isTrimOf_iff {trimmed parts : List String} :
    List.Forall₂ IsTrimOf trimmed parts ↔ trimmed = parts.map Text.trim := by
  have hiff : IsTrimOf = fun s part => s = Text.trim part := by
    funext s part
    exact propext isTrimOf_iff
  rw [hiff, ← List.forall₂_map_right_iff, List.forall₂_eq_eq_eq]

/-- A text is cut at commas, its parts are trimmed, and empty ones are dropped. -/
theorem referenceTexts_string (s : String) : referenceTexts (some (.string s)) =
    (((splitAtEach ',' s.toList).map String.ofList).map Text.trim).filter (· ≠ "") := by
  have hempty (cs : List Char) : (!cs.isEmpty) = decide (String.ofList cs ≠ "") := by
    cases cs <;> simp
  have htrim (cs : List Char) : Text.trim (String.ofList cs) = String.ofList (trimChars cs) := by
    rw [Text.trim, String.toList_ofList]
  simp only [referenceTexts, List.map_map, List.filter_map, Function.comp_def, hempty, htrim]

/-- What a value lists is what is read from it. -/
theorem listsReferences_iff {v? : Option Value} {refs : List String} :
    ListsReferences v? refs ↔ refs = referenceTexts v? := by
  constructor
  · intro h
    cases h with
    | items h => exact listsItems_iff.1 h
    | @parts parts trimmed hcomma htrimmed =>
        rw [forall₂_isTrimOf_iff.1 htrimmed, referenceTexts_string]
        by_cases hnil : parts = []
        · subst hnil
          decide +kernel
        · have hsplit : splitAtEach ',' (",".intercalate parts).toList = parts.map String.toList :=
            Text.splitAtEach_intercalate hnil hcomma
          have hback : (parts.map String.toList).map String.ofList = parts := by simp
          rw [hsplit, hback]
    | _ => rfl
  · rintro rfl
    match v? with
    | some (.string s) =>
        obtain ⟨hjoined, hcomma⟩ := Text.intercalate_splitAtEach ',' s.toList
        have htext : s = ",".intercalate ((splitAtEach ',' s.toList).map String.ofList) := by
          rw [← String.toList_inj, String.toList_intercalate, List.map_map]
          simpa using hjoined.symm
        rw [referenceTexts_string]
        nth_rewrite 1 [htext]
        refine .parts ?_ (forall₂_isTrimOf_iff.2 rfl)
        simpa using hcomma
    | some (.array items) => exact .items (listsItems_iff.2 rfl)
    | some (.number n) => exact .number n
    | some .null => exact .null
    | some (.bool b) => exact .bool b
    | some (.object members) => exact .object members
    | none => exact .absent

end ZoneGuard
