import Mathlib
import ZoneGuard.Proofs.References
import ZoneGuard.Proofs.Text.Pieces

/-!
# Lines and words of a text

Text that is written line by line is read back as these lines.  A line is read as
words, which stand between single spaces.  What is asked of the characters of many
fixed texts is asked of their spellings, which can be computed with.
-/

namespace ZoneGuard.Text

/-- What stands between the line feeds of a text. -/
def lines (s : String) : List String := (splitAtEach '\n' s.toList).map String.ofList

/-- What stands between the spaces of a text. -/
def words (s : String) : List String := (splitAtEach ' ' s.toList).map String.ofList

theorem lines_of_isLine {s : String} (h : IsLine s) : lines s = [s] := by
  rw [lines, splitAtEach_of_notMem h, List.map_singleton, String.ofList_toList]

/-- The lines of a text have no line feed. -/
theorem isLine_of_mem_lines {s line : String} (h : line ∈ lines s) : IsLine line := by
  obtain ⟨part, hpart, rfl⟩ := List.mem_map.1 h
  rw [IsLine, String.toList_ofList]
  exact (intercalate_splitAtEach '\n' s.toList).2 part hpart

/-- What is put before a text without a line feed goes before its first line. -/
theorem exists_lines_append {s : String} (h : IsLine s) (t : String) :
    ∃ first, lines (s ++ t) = (s ++ first) :: (lines t).tail := by
  obtain ⟨first, rest, hsplit⟩ := List.exists_cons_of_ne_nil (splitAtEach_ne_nil '\n' t.toList)
  obtain ⟨htext, hfirst, hrest⟩ := splitAtEach_eq_cons_iff.1 hsplit
  have hnone : '\n' ∉ s.toList ++ first := by
    simpa [IsLine] using And.intro h hfirst
  have hwhole : splitAtEach '\n' (s ++ t).toList = (s.toList ++ first) :: rest :=
    splitAtEach_eq_cons_iff.2 ⟨by rw [String.toList_append, htext, List.append_assoc], hnone, hrest⟩
  refine ⟨String.ofList first, ?_⟩
  rw [lines, lines, hwhole, hsplit, List.map_cons, List.map_cons, List.tail_cons,
    String.ofList_append, String.ofList_toList]

/-- A text that is written among the lines comes back as the lines it has. -/
theorem lines_unlines_eq_flatMap (ls : List String) :
    lines (unlines ls) = ls.flatMap lines ++ [""] := by
  induction ls with
  | nil => rfl
  | cons line ls ih =>
      have hchars : (unlines (line :: ls)).toList = line.toList ++ '\n' :: (unlines ls).toList := by
        rw [toList_unlines, toList_unlines, List.flatMap_cons, List.append_assoc,
          List.singleton_append]
      rw [lines] at ih
      rw [lines, hchars, splitAtEach_append, List.map_append, ih, List.flatMap_cons,
        List.append_assoc, lines]

theorem flatMap_lines_of_forall {ls : List String} (h : ∀ line ∈ ls, IsLine line) :
    ls.flatMap lines = ls := by
  rw [List.flatMap_congr fun line hline => lines_of_isLine (h line hline), List.flatMap_singleton']

/-- Behind the last line feed stands the empty text. -/
theorem lines_unlines {ls : List String} (h : ∀ line ∈ ls, IsLine line) :
    lines (unlines ls) = ls ++ [""] := by
  rw [lines_unlines_eq_flatMap, flatMap_lines_of_forall h]

/-- A text without spaces is one word. -/
theorem words_of_notMem {word : String} (h : ' ' ∉ word.toList) : words word = [word] := by
  rw [words, splitAtEach_of_notMem h, List.map_singleton, String.ofList_toList]

/-- The first word ends at the first space. -/
theorem words_append {word : String} (h : ' ' ∉ word.toList) (rest : String) :
    words (word ++ " " ++ rest) = word :: words rest := by
  have hchars : (word ++ " " ++ rest).toList = word.toList ++ ' ' :: rest.toList := by
    simp
  rw [words, hchars, splitAtEach_append_cons h, List.map_cons, String.ofList_toList, words]

/-- The words of a union are its members and the signs between them. -/
theorem words_intercalate_plus {members : List String} (hne : members ≠ [])
    (h : ∀ word ∈ members, ' ' ∉ word.toList) :
    words (" + ".intercalate members) = members.intersperse "+" := by
  induction members with
  | nil => exact absurd rfl hne
  | cons word members ih =>
      obtain ⟨hword, hrest⟩ := List.forall_mem_cons.1 h
      cases members with
      | nil => rw [String.intercalate_singleton, words_of_notMem hword, List.intersperse_singleton]
      | cons next members =>
          have hseparator (rest : String) :
              word ++ " + " ++ rest = word ++ " " ++ ("+ " ++ rest) := by
            apply String.toList_injective
            simp
          have hplus (rest : String) : words ("+ " ++ rest) = "+" :: words rest :=
            words_append (show ' ' ∉ "+".toList by decide) rest
          rw [String.intercalate_cons_cons, hseparator, words_append hword, hplus,
            ih (List.cons_ne_nil _ _) hrest, List.intersperse_cons_cons]

theorem mem_of_mem_intersperse {α : Type} {a separator : α} {as : List α}
    (h : a ∈ as.intersperse separator) : a = separator ∨ a ∈ as := by
  induction as with
  | nil => exact Or.inr h
  | cons b as ih =>
      cases as with
      | nil => exact Or.inr h
      | cons c as =>
          rw [List.intersperse_cons_cons, List.mem_cons, List.mem_cons] at h
          rcases h with rfl | rfl | h
          · exact Or.inr List.mem_cons_self
          · exact Or.inl rfl
          · exact (ih h).imp_right (List.mem_cons_of_mem b)

theorem subset_intersperse {α : Type} (separator : α) (as : List α) :
    as ⊆ as.intersperse separator := by
  induction as with
  | nil => exact List.Subset.refl _
  | cons b as ih =>
      cases as with
      | nil => exact List.Subset.refl _
      | cons c as =>
          rw [List.intersperse_cons_cons]
          exact List.cons_subset_cons b (List.subset_cons_of_subset separator ih)

/-! ## Fixed texts -/

inductive Spells : List (List Char) → List String → Prop where
  | nil : Spells [] []
  | cons (cs : List Char) {spellings : List (List Char)} {texts : List String}
      (h : Spells spellings texts) : Spells (cs :: spellings) (String.ofList cs :: texts)
  | append (cs ds : List Char) {spellings : List (List Char)} {texts : List String}
      (h : Spells spellings texts) :
      Spells ((cs ++ ds) :: spellings) ((String.ofList cs ++ String.ofList ds) :: texts)

/-- What holds of the spellings holds of the characters of the texts. -/
theorem forall_of_spells (P : List Char → Prop) {spellings : List (List Char)}
    {texts : List String} (h : Spells spellings texts) (hall : ∀ cs ∈ spellings, P cs) :
    ∀ s ∈ texts, P s.toList := by
  induction h with
  | nil => nofun
  | cons cs _ ih =>
      obtain ⟨hfirst, hrest⟩ := List.forall_mem_cons.1 hall
      refine List.forall_mem_cons.2 ⟨?_, ih hrest⟩
      rwa [String.toList_ofList]
  | append cs ds _ ih =>
      obtain ⟨hfirst, hrest⟩ := List.forall_mem_cons.1 hall
      refine List.forall_mem_cons.2 ⟨?_, ih hrest⟩
      rwa [String.toList_append, String.toList_ofList, String.toList_ofList]

end ZoneGuard.Text
