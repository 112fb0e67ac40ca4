import Mathlib
import ZoneGuard.Text.Lines

/-!
# Texts written piece by piece

A text that is a sequence of pieces can be taken apart again if no piece can be
confused with the beginning of another.  Here the pieces are lines, which end
at their line feed, and the words of a list, which end where a separator
begins.
-/

namespace ZoneGuard.Text

/-- Two texts that agree up to the end of their first separators agree before
and behind it. -/
theorem append_cons_eq_iff {α : Type} {d : α} {left right us vs : List α}
    (hleft : d ∉ left) (hright : d ∉ right) :
    left ++ d :: us = right ++ d :: vs ↔ left = right ∧ us = vs := by
  constructor
  · intro heq
    induction left generalizing right with
    | nil =>
        cases right with
        | nil => simpa using heq
        | cons c right =>
            have hhead : d = c := by simpa using congrArg List.head? heq
            exact absurd (hhead ▸ List.mem_cons_self) hright
    | cons c left ih =>
        cases right with
        | nil =>
            have hhead : c = d := by simpa using congrArg List.head? heq
            exact absurd (hhead ▸ List.mem_cons_self) hleft
        | cons c' right =>
            simp only [List.cons_append, List.cons.injEq] at heq
            obtain ⟨rfl, heq⟩ := heq
            obtain ⟨rfl, rfl⟩ := ih (List.not_mem_of_not_mem_cons hleft)
              (List.not_mem_of_not_mem_cons hright) heq
            exact ⟨rfl, rfl⟩
  · rintro ⟨rfl, rfl⟩
    rfl

/-- Two texts that agree from their last separators on agree before them and
behind them. -/
theorem append_cons_eq_iff_of_notMem_right {α : Type} {d : α} {left right us vs : List α}
    (hleft : d ∉ left) (hright : d ∉ right) :
    us ++ d :: left = vs ++ d :: right ↔ us = vs ∧ left = right := by
  rw [← List.reverse_inj, List.reverse_append, List.reverse_append, List.reverse_cons,
    List.reverse_cons, List.append_assoc, List.append_assoc, List.singleton_append,
    List.singleton_append, append_cons_eq_iff (by simpa using hleft) (by simpa using hright),
    List.reverse_inj, List.reverse_inj, and_comm]

/-- If each piece shows where it ends and what it was made from, then so does a
sequence of pieces. -/
theorem map_eq_of_flatMap_eq {α β γ : Type} {f : α → List β} (key : α → γ)
    {left right : List α} (hleft : ∀ a ∈ left, f a ≠ []) (hright : ∀ b ∈ right, f b ≠ [])
    (hdecode : ∀ a ∈ left, ∀ b ∈ right, ∀ us vs, f a ++ us = f b ++ vs →
      key a = key b ∧ us = vs)
    (heq : left.flatMap f = right.flatMap f) : left.map key = right.map key := by
  induction left generalizing right with
  | nil =>
      cases right with
      | nil => rfl
      | cons b right =>
          rw [List.flatMap_nil, List.flatMap_cons] at heq
          exact absurd (List.append_eq_nil_iff.1 heq.symm).1 (hright b List.mem_cons_self)
  | cons a left ih =>
      cases right with
      | nil =>
          rw [List.flatMap_nil, List.flatMap_cons] at heq
          exact absurd (List.append_eq_nil_iff.1 heq).1 (hleft a List.mem_cons_self)
      | cons b right =>
          rw [List.flatMap_cons, List.flatMap_cons] at heq
          obtain ⟨hkey, hrest⟩ :=
            hdecode a List.mem_cons_self b List.mem_cons_self _ _ heq
          have htail := ih (fun a' ha' => hleft a' (List.mem_cons_of_mem _ ha'))
            (fun b' hb' => hright b' (List.mem_cons_of_mem _ hb'))
            (fun a' ha' b' hb' => hdecode a' (List.mem_cons_of_mem _ ha') b'
              (List.mem_cons_of_mem _ hb')) hrest
          rw [List.map_cons, List.map_cons, hkey, htail]

/-! ## Lines -/

/-- The text has no line feed. -/
def IsLine (s : String) : Prop := '\n' ∉ s.toList

instance : DecidablePred IsLine := fun s => inferInstanceAs (Decidable ('\n' ∉ s.toList))

/-- Two texts make one line exactly if both have no line feed. -/
theorem isLine_append {s t : String} : IsLine (s ++ t) ↔ IsLine s ∧ IsLine t := by
  simp [IsLine, not_or]

theorem isLine_toString (n : Nat) : IsLine (toString n) := by
  intro hmem
  rw [Nat.toString_eq_ofList_toDigits, String.toList_ofList] at hmem
  exact absurd (Nat.isDigit_of_mem_toDigits (by decide) (by decide) hmem) (by decide)

theorem toList_unlines (lines : List String) :
    (unlines lines).toList = lines.flatMap fun line => line.toList ++ ['\n'] := by
  simp [unlines, List.flatMap_map]

theorem unlines_singleton (line : String) : unlines [line] = line ++ "\n" := by
  apply String.toList_injective
  simp [toList_unlines]

theorem unlines_append (left right : List String) :
    unlines (left ++ right) = unlines left ++ unlines right := by
  apply String.toList_injective
  rw [String.toList_append, toList_unlines, toList_unlines, toList_unlines,
    List.flatMap_append]

/-- The lines can be read off the text. -/
theorem unlines_injOn {left right : List String} (hleft : ∀ line ∈ left, IsLine line)
    (hright : ∀ line ∈ right, IsLine line) (heq : unlines left = unlines right) :
    left = right := by
  have hchars := congrArg String.toList heq
  rw [toList_unlines, toList_unlines] at hchars
  have hmap := map_eq_of_flatMap_eq id (by simp) (by simp) (fun a ha b hb us vs h => by
    rw [List.append_assoc, List.append_assoc, List.singleton_append, List.singleton_append,
      append_cons_eq_iff (hleft a ha) (hright b hb)] at h
    exact ⟨String.toList_injective h.1, h.2⟩) hchars
  rwa [List.map_id, List.map_id] at hmap

/-! ## Words with a separator between them -/

theorem toList_intercalate_append (separator : String) {words : List String}
    (hne : words ≠ []) :
    (separator.intercalate words).toList ++ separator.toList =
      words.flatMap fun word => word.toList ++ separator.toList := by
  induction words with
  | nil => exact absurd rfl hne
  | cons word words ih =>
      cases words with
      | nil => simp
      | cons next words =>
          rw [String.intercalate_cons_cons, List.flatMap_cons, ← ih (by simp)]
          simp

/-- A list of words has characters of the words and of the separator. -/
theorem mem_of_mem_intercalate {separator : String} {words : List String} {c : Char}
    (h : c ∈ (separator.intercalate words).toList) :
    c ∈ separator.toList ∨ ∃ word ∈ words, c ∈ word.toList := by
  by_cases hne : words = []
  · rw [hne, String.intercalate_nil] at h
    exact absurd h List.not_mem_nil
  · have hmem := List.mem_append_left separator.toList h
    rw [toList_intercalate_append _ hne, List.mem_flatMap] at hmem
    obtain ⟨word, hword, hmem⟩ := hmem
    rcases List.mem_append.1 hmem with hmem | hmem
    · exact Or.inr ⟨word, hword, hmem⟩
    · exact Or.inl hmem

/-- Joined texts make one line exactly if none of them has a line feed. -/
theorem isLine_intercalate_iff {separator : String} (hseparator : IsLine separator)
    {words : List String} :
    IsLine (separator.intercalate words) ↔ ∀ word ∈ words, IsLine word := by
  constructor
  · intro h word hword hmem
    have hwhole : '\n' ∈ words.flatMap fun word => word.toList ++ separator.toList :=
      List.mem_flatMap.2 ⟨word, hword, List.mem_append_left _ hmem⟩
    rw [← toList_intercalate_append separator (List.ne_nil_of_mem hword)] at hwhole
    exact (List.mem_append.1 hwhole).elim h hseparator
  · intro h hmem
    rcases mem_of_mem_intercalate hmem with hmem | ⟨word, hword, hmem⟩
    · exact hseparator hmem
    · exact h word hword hmem

/-- The words can be read off their list, if the first character of the
separator is in none of them. -/
theorem intercalate_injOn (separator : String) {d : Char} {ds : List Char}
    (hseparator : separator.toList = d :: ds) {left right : List String}
    (hleft : ∀ word ∈ left, d ∉ word.toList) (hright : ∀ word ∈ right, d ∉ word.toList)
    (hleftNe : left ≠ []) (hrightNe : right ≠ [])
    (heq : separator.intercalate left = separator.intercalate right) : left = right := by
  have hchars := congrArg (fun s : String => s.toList ++ separator.toList) heq
  rw [toList_intercalate_append _ hleftNe, toList_intercalate_append _ hrightNe,
    hseparator] at hchars
  have hmap := map_eq_of_flatMap_eq id (by simp) (by simp) (fun a ha b hb us vs h => by
    rw [List.append_assoc, List.append_assoc, List.cons_append, List.cons_append,
      append_cons_eq_iff (hleft a ha) (hright b hb)] at h
    exact ⟨String.toList_injective h.1, List.append_cancel_left h.2⟩) hchars
  rwa [List.map_id, List.map_id] at hmap

end ZoneGuard.Text
