import Mathlib
import ZoneGuard.Proofs.Text.Replacement

/-!
# Replacing one pattern after the other

Replaced one after the other, an occurrence of a later pattern is never lost, but the
values of earlier ones may make new occurrences.  As long as none is made, the text comes
out as it does in one pass.
-/

namespace ZoneGuard.Text

/-- The characters with the patterns of the table replaced one after the other. -/
def replaceInTurn (table : List (List Char × List Char)) (cs : List Char) : List Char :=
  table.foldl (fun cs row => replaceAll row.1 row.2 cs) cs

/-- The number of occurrences that are replaced in turn. -/
def replacements : List (List Char × List Char) → List Char → Nat
  | [], _ => 0
  | row :: table, cs => occurrences row.1 cs + replacements table (replaceAll row.1 row.2 cs)

/-- The number of occurrences of patterns that are in the text from the beginning. -/
def patternCount (table : List (List Char × List Char)) (cs : List Char) : Nat :=
  (table.map fun row => occurrences row.1 cs).sum

theorem ne_of_append_eq {whole front back : List Char} (h : whole = front ++ back)
    (hne : front ≠ []) : back ≠ whole := by
  rintro rfl
  exact hne (List.self_eq_append_left.1 h)

section

variable {mark : Char} {table : List (List Char × List Char)} {last : List Char × List Char}

namespace IsTable

variable (h : IsTable mark (table ++ [last]))
include h

theorem init : IsTable mark table := h.sublist (List.sublist_append_left _ _)

theorem marked_last : IsMarked mark last.1 := h.marked last (by simp)

theorem areApart_last {row : List Char × List Char} (hrow : row ∈ table) : AreApart row last :=
  (List.pairwise_append.1 h.apart).2.2 row hrow last (by simp)

/-- An occurrence of another pattern is passed over. -/
theorem occurrences_append {row : List Char × List Char} (hrow : row ∈ table) (cs : List Char) :
    occurrences last.1 (row.1 ++ cs) = occurrences last.1 cs := by
  obtain ⟨body, hpattern, hbody⟩ := h.init.marked row hrow
  have hnone : ¬ last.1 <+: row.1 ++ cs := by
    intro hbegins
    rcases List.prefix_or_prefix_of_prefix hbegins (List.prefix_append row.1 cs) with hle | hle
    · exact (h.areApart_last hrow).2 hle
    · exact (h.areApart_last hrow).1 hle
  rw [hpattern, List.cons_append] at hnone ⊢
  rw [occurrences_cons_of_not_isPrefix hnone, h.marked_last.occurrences_append hbody]

/-- An occurrence of a pattern that is not in the table stays. -/
theorem replaceEach_last_append (cs : List Char) :
    replaceEach table (last.1 ++ cs) = last.1 ++ replaceEach table cs := by
  obtain ⟨body, hpattern, hbody⟩ := h.marked_last
  have hnone : ∀ row ∈ table, ¬ row.1 <+: last.1 ++ cs := by
    intro row hrow hbegins
    rcases List.prefix_or_prefix_of_prefix hbegins (List.prefix_append last.1 cs) with hle | hle
    · exact (h.areApart_last hrow).1 hle
    · exact (h.areApart_last hrow).2 hle
  rw [hpattern, List.cons_append] at hnone ⊢
  rw [replaceEach_cons hnone, h.init.replaceEach_append_of_notMem hbody, List.cons_append]

/-- Occurrences of a pattern are not lost when others are replaced. -/
theorem occurrences_le_replaceEach (cs : List Char) :
    occurrences last.1 cs ≤ occurrences last.1 (replaceEach table cs) := by
  induction cs using h.text_induction with
  | nil => exact le_rfl
  | row row hrow cs ih =>
      rcases List.mem_append.1 hrow with hrow | hrow
      · rw [h.occurrences_append hrow, h.init.replaceEach_append hrow]
        exact ih.trans (occurrences_le_append _ _ _)
      · obtain rfl := List.mem_singleton.1 hrow
        rw [h.replaceEach_last_append, h.marked_last.occurrences_self_append,
          h.marked_last.occurrences_self_append]
        exact Nat.succ_le_succ ih
  | char c cs hnone ih =>
      rw [replaceEach_cons fun row hrow => hnone row (List.mem_append_left _ hrow),
        occurrences_cons_of_not_isPrefix (hnone last (by simp))]
      exact ih.trans (occurrences_le_append _ [c] _)

/-- If replacing others makes no new occurrence of a pattern, it may be replaced afterwards
as well as in the same pass. -/
theorem replaceAll_replaceEach {cs : List Char}
    (heq : occurrences last.1 (replaceEach table cs) = occurrences last.1 cs) :
    replaceAll last.1 last.2 (replaceEach table cs) = replaceEach (table ++ [last]) cs := by
  induction cs using h.text_induction with
  | nil => rfl
  | row row hrow cs ih =>
      rw [h.replaceEach_append hrow]
      rcases List.mem_append.1 hrow with hrow | hrow
      · rw [h.occurrences_append hrow, h.init.replaceEach_append hrow] at heq
        have hfirst := h.occurrences_le_replaceEach cs
        have hsecond := occurrences_le_append last.1 row.2 (replaceEach table cs)
        rw [h.init.replaceEach_append hrow,
          replaceAll_append_of_occurrences_eq _ (by omega), ih (by omega)]
      · obtain rfl := List.mem_singleton.1 hrow
        rw [h.replaceEach_last_append, h.marked_last.occurrences_self_append,
          h.marked_last.occurrences_self_append] at heq
        have hsingle : IsTable mark [row] := h.sublist (List.sublist_append_right _ _)
        rw [h.replaceEach_last_append, replaceAll_eq_replaceEach,
          hsingle.replaceEach_append List.mem_cons_self, ← replaceAll_eq_replaceEach,
          ih (Nat.succ.inj heq)]
  | char c cs hnone ih =>
      have hstep := replaceEach_cons fun row hrow => hnone row (List.mem_append_left _ hrow)
      rw [hstep, occurrences_cons_of_not_isPrefix (hnone last (by simp))] at heq
      have hfirst := h.occurrences_le_replaceEach cs
      have hsecond := occurrences_le_append last.1 [c] (replaceEach table cs)
      rw [List.singleton_append] at hsecond
      have hnew := replaceAll_append_of_occurrences_eq last.2
        (show occurrences last.1 ([c] ++ replaceEach table cs) = _ by
          rw [List.singleton_append]; omega)
      rw [hstep, replaceEach_cons hnone, ← List.singleton_append, hnew, ih (by omega),
        List.singleton_append]

/-! ### New occurrences -/

/-- What is missing of a pattern does not come up where it did not stand, if no value
completes the pattern. -/
theorem isPrefix_of_isPrefix_replaceEach (hvalues : ∀ row ∈ table, ¬ Completes row.2 last.1)
    {front back cs : List Char} (hsplit : last.1 = front ++ back) (hne : front ≠ [])
    (hback : back <+: replaceEach table cs) : back <+: cs := by
  induction cs using h.init.text_induction generalizing front back with
  | nil => exact hback
  | row row hrow cs ih =>
      rw [h.init.replaceEach_append hrow] at hback
      by_cases hnil : back = []
      · exact hnil ▸ List.nil_prefix
      · have hfrontNe : front ≠ last.1 := by
          intro heq
          exact hnil (List.self_eq_append_right.1 (heq.trans hsplit))
        refine absurd ?_ (hvalues row hrow)
        rcases isPrefix_append_cases hback with hle | ⟨rest, rfl, -⟩
        · refine completes_of_isInfix (hsplit ▸ List.prefix_append _ _) List.nil_suffix hfrontNe
            h.marked_last.ne_nil.symm ?_
          rw [hsplit, List.append_nil]
          exact ((List.prefix_append_right_inj front).2 hle).isInfix
        · have hsuffix : rest <:+ last.1 := ⟨front ++ row.2, by rw [hsplit, List.append_assoc]⟩
          refine completes_of_isInfix (hsplit ▸ List.prefix_append _ _) hsuffix hfrontNe ?_ ?_
          · exact ne_of_append_eq (hsplit.trans (List.append_assoc ..).symm) (by simp [hne])
          · rw [hsplit, List.append_assoc]
  | char c cs hnone ih =>
      rw [replaceEach_cons hnone] at hback
      cases back with
      | nil => exact List.nil_prefix
      | cons d back =>
          obtain ⟨rfl, hrest⟩ := List.cons_prefix_cons.1 hback
          exact List.cons_prefix_cons.2
            ⟨rfl, ih (show last.1 = (front ++ [d]) ++ back by simpa using hsplit) (by simp) hrest⟩

/-- Values that do not complete a pattern make no new occurrence of it. -/
theorem occurrences_replaceEach (hvalues : ∀ row ∈ table, ¬ Completes row.2 last.1)
    (cs : List Char) : occurrences last.1 (replaceEach table cs) = occurrences last.1 cs := by
  induction cs using h.text_induction with
  | nil => rfl
  | row row hrow cs ih =>
      rcases List.mem_append.1 hrow with hrow | hrow
      · rw [h.init.replaceEach_append hrow, h.occurrences_append hrow, ← ih]
        refine occurrences_append_of_forall fun front back hvalue hne hbegins => ?_
        refine hvalues row hrow ?_
        rcases isPrefix_append_cases hbegins with hle | ⟨rest, hsplit, -⟩
        · refine completes_of_isInfix List.nil_prefix List.nil_suffix h.marked_last.ne_nil.symm
            h.marked_last.ne_nil.symm ?_
          rw [List.append_nil, List.nil_append, hvalue]
          exact hle.isInfix.trans (List.suffix_append front back).isInfix
        · refine completes_of_isInfix List.nil_prefix (hsplit ▸ List.suffix_append back rest)
            h.marked_last.ne_nil.symm (ne_of_append_eq hsplit hne) ?_
          rw [List.nil_append, hvalue, List.append_assoc, ← hsplit]
          exact (List.suffix_append front last.1).isInfix
      · obtain rfl := List.mem_singleton.1 hrow
        rw [h.replaceEach_last_append, h.marked_last.occurrences_self_append,
          h.marked_last.occurrences_self_append, ih]
  | char c cs hnone ih =>
      rw [replaceEach_cons fun row hrow => hnone row (List.mem_append_left _ hrow),
        occurrences_cons_of_not_isPrefix (hnone last (by simp)), ← ih]
      refine occurrences_cons_of_not_isPrefix fun hbegins => hnone last (by simp) ?_
      obtain ⟨d, body, hpattern⟩ := List.exists_cons_of_ne_nil h.marked_last.ne_nil
      rw [hpattern] at hbegins ⊢
      obtain ⟨rfl, hbody⟩ := List.cons_prefix_cons.1 hbegins
      exact List.cons_prefix_cons.2 ⟨rfl, h.isPrefix_of_isPrefix_replaceEach hvalues
        (show last.1 = [d] ++ body from hpattern) (by simp) hbody⟩

/-- A value that completes a pattern makes a new occurrence of it in some text: the pattern
without its middle, and in place of it what is replaced by the value. -/
theorem exists_occurrences_pos {row : List Char × List Char} (hrow : row ∈ table)
    (hvalue : Completes row.2 last.1) :
    ∃ cs, occurrences last.1 cs = 0 ∧ 0 < occurrences last.1 (replaceEach table cs) := by
  obtain ⟨front, hfront, back, hback, hfrontNe, hbackNe, hwithin⟩ := hvalue
  obtain ⟨frontRest, hfrontSplit⟩ := (List.mem_inits _ _).1 hfront
  obtain ⟨backRest, hbackSplit⟩ := (List.mem_tails _ _).1 hback
  have hbackRest : backRest ≠ [] := by
    rintro rfl
    exact hbackNe (by simpa using hbackSplit)
  have hbackMark := h.marked_last.notMem_of_append hbackSplit.symm hbackRest
  have hrest : replaceEach table (row.1 ++ back) = row.2 ++ back := by
    rw [h.init.replaceEach_append hrow, h.init.replaceEach_of_notMem hbackMark]
  have hnoneBehind : occurrences last.1 (row.1 ++ back) = 0 := by
    have hback := h.marked_last.occurrences_append hbackMark []
    rw [List.append_nil, occurrences_nil h.marked_last.ne_nil] at hback
    rw [h.occurrences_append hrow, hback]
  have hpos := occurrences_pos_of_isInfix h.marked_last.ne_nil hwithin
  rw [List.append_assoc] at hpos
  refine ⟨front ++ (row.1 ++ back), ?_⟩
  cases front with
  | nil =>
      rw [List.nil_append, hrest]
      exact ⟨hnoneBehind, hpos⟩
  | cons c front =>
      have hfrontMark := h.marked_last.notMem_of_append
        (show last.1 = [c] ++ (front ++ frontRest) by rw [← hfrontSplit]; rfl) (by simp)
      have hle : ∀ other ∈ table ++ [last], ¬ other.1 <+: c :: (front ++ (row.1 ++ back)) := by
        intro other hother hbegins
        have hbegins' := (h.marked other hother).isPrefix_of_isPrefix_append
          (h.init.marked row hrow) (List.cons_ne_nil c front) hbegins
        have hlast := hbegins'.trans ⟨frontRest, hfrontSplit⟩
        rcases List.mem_append.1 hother with hother | hother
        · exact (h.areApart_last hother).1 hlast
        · obtain rfl := List.mem_singleton.1 hother
          exact hfrontNe (List.IsPrefix.eq_of_length_le ⟨frontRest, hfrontSplit⟩ hbegins'.length_le)
      have hfrontNone : mark ∉ front := fun hmem => hfrontMark (List.mem_append_left _ hmem)
      rw [List.cons_append, occurrences_cons_of_not_isPrefix (hle last (by simp)),
        h.marked_last.occurrences_append hfrontNone, hnoneBehind,
        replaceEach_cons fun other hother => hle other (List.mem_append_left _ hother),
        h.init.replaceEach_append_of_notMem hfrontNone, hrest]
      exact ⟨rfl, hpos⟩

end IsTable

/-! ### All patterns -/

/-- The last pattern is replaced in what the others have left. -/
theorem replaceInTurn_append_singleton (table : List (List Char × List Char))
    (last : List Char × List Char) (cs : List Char) :
    replaceInTurn (table ++ [last]) cs = replaceAll last.1 last.2 (replaceInTurn table cs) := by
  rw [replaceInTurn, List.foldl_append]
  rfl

theorem replacements_append_singleton (table : List (List Char × List Char))
    (last : List Char × List Char) (cs : List Char) :
    replacements (table ++ [last]) cs =
      replacements table cs + occurrences last.1 (replaceInTurn table cs) := by
  induction table generalizing cs with
  | nil => simp [replacements, replaceInTurn]
  | cons row table ih =>
      rw [List.cons_append, replacements, ih, replacements, Nat.add_assoc]
      rfl

theorem patternCount_append_singleton (table : List (List Char × List Char))
    (last : List Char × List Char) (cs : List Char) :
    patternCount (table ++ [last]) cs = patternCount table cs + occurrences last.1 cs := by
  simp [patternCount]

namespace IsTable

/-- Replacing other patterns does not lose an occurrence of the last one. -/
theorem occurrences_le_replaceInTurn (h : IsTable mark (table ++ [last])) (cs : List Char) :
    occurrences last.1 cs ≤ occurrences last.1 (replaceInTurn table cs) := by
  induction table generalizing cs with
  | nil => exact le_rfl
  | cons row table ih =>
      have hpair : IsTable mark ([row] ++ [last]) :=
        h.sublist (List.Sublist.cons_cons row (List.sublist_append_right table [last]))
      refine (hpair.occurrences_le_replaceEach cs).trans ?_
      rw [← replaceAll_eq_replaceEach]
      exact ih (h.sublist (List.sublist_cons_self row _)) _

/-- At least the occurrences that the text has are replaced. -/
theorem patternCount_le_replacements (h : IsTable mark table) (cs : List Char) :
    patternCount table cs ≤ replacements table cs := by
  induction table using List.reverseRecOn with
  | nil => exact le_rfl
  | append_singleton table last ih =>
      rw [patternCount_append_singleton, replacements_append_singleton]
      exact Nat.add_le_add (ih h.init) (h.occurrences_le_replaceInTurn cs)

/-- If no more are replaced, it comes to the same as replacing all in one pass. -/
theorem replaceInTurn_eq_replaceEach (h : IsTable mark table) {cs : List Char}
    (heq : replacements table cs = patternCount table cs) :
    replaceInTurn table cs = replaceEach table cs := by
  induction table using List.reverseRecOn with
  | nil => exact (replaceEach_nil_table cs).symm
  | append_singleton table last ih =>
      have hinit := h.init.patternCount_le_replacements cs
      have hlast := h.occurrences_le_replaceInTurn cs
      rw [patternCount_append_singleton, replacements_append_singleton] at heq
      have hturn := ih h.init (by omega)
      rw [replaceInTurn_append_singleton, hturn]
      exact h.replaceAll_replaceEach (by rw [← hturn]; omega)

/-- No more are replaced, whatever the text is, exactly if no value completes a pattern that
has its turn later. -/
theorem forall_replacements_eq_iff (h : IsTable mark table) :
    (∀ cs, replacements table cs = patternCount table cs) ↔
      table.Pairwise fun row later => ¬ Completes row.2 later.1 := by
  induction table using List.reverseRecOn with
  | nil => exact iff_of_true (fun _ => rfl) List.Pairwise.nil
  | append_singleton table last ih =>
      have hinit := h.init.patternCount_le_replacements
      have hlast := h.occurrences_le_replaceInTurn
      simp only [patternCount_append_singleton, replacements_append_singleton]
      rw [List.pairwise_append, ← ih h.init]
      constructor
      · intro heq
        have htable : ∀ cs, replacements table cs = patternCount table cs := by
          intro cs
          have := heq cs
          have := hinit cs
          have := hlast cs
          omega
        refine ⟨htable, List.pairwise_singleton _ _, fun row hrow later hlater hvalue => ?_⟩
        rw [List.mem_singleton.1 hlater] at hvalue
        obtain ⟨cs, hnone, hpos⟩ := h.exists_occurrences_pos hrow hvalue
        have hturn := h.init.replaceInTurn_eq_replaceEach (htable cs)
        have := heq cs
        rw [hturn] at this
        have := htable cs
        omega
      · rintro ⟨htable, -, hvalues⟩ cs
        have hturn := h.init.replaceInTurn_eq_replaceEach (htable cs)
        rw [htable cs, hturn,
          h.occurrences_replaceEach fun row hrow => hvalues row hrow last (by simp)]

end IsTable

/-! ### All values of the last pattern -/

namespace IsTable

/-- A pattern that stands for itself might as well not be in the table. -/
theorem replaceEach_self (h : IsTable mark (table ++ [last])) (hself : last.2 = last.1)
    (cs : List Char) : replaceEach (table ++ [last]) cs = replaceEach table cs := by
  induction cs using h.text_induction with
  | nil => rfl
  | row row hrow cs ih =>
      rw [h.replaceEach_append hrow, ih]
      rcases List.mem_append.1 hrow with hrow | hrow
      · rw [h.init.replaceEach_append hrow]
      · obtain rfl := List.mem_singleton.1 hrow
        rw [h.replaceEach_last_append, hself]
  | char c cs hnone ih =>
      rw [replaceEach_cons hnone, ih,
        replaceEach_cons fun row hrow => hnone row (List.mem_append_left _ hrow)]

theorem replaceEach_of_occurrences_eq_zero (h : IsTable mark (table ++ [last])) {cs : List Char}
    (hnone : occurrences last.1 cs = 0) :
    replaceEach (table ++ [last]) cs = replaceEach table cs := by
  induction cs using h.text_induction with
  | nil => rfl
  | row row hrow cs ih =>
      rw [h.replaceEach_append hrow]
      rcases List.mem_append.1 hrow with hrow | hrow
      · rw [h.occurrences_append hrow] at hnone
        rw [h.init.replaceEach_append hrow, ih hnone]
      · obtain rfl := List.mem_singleton.1 hrow
        rw [h.marked_last.occurrences_self_append] at hnone
        cases hnone
  | char c cs hnoneHere ih =>
      rw [occurrences_cons_of_not_isPrefix (hnoneHere last (by simp))] at hnone
      rw [replaceEach_cons hnoneHere, ih hnone,
        replaceEach_cons fun row hrow => hnoneHere row (List.mem_append_left _ hrow)]

/-- A pattern may be replaced after others, whatever the text is, exactly if it stands for
itself or no value completes it. -/
theorem forall_replaceAll_replaceEach_iff (h : IsTable mark (table ++ [last])) :
    (∀ cs, replaceAll last.1 last.2 (replaceEach table cs) = replaceEach (table ++ [last]) cs) ↔
      last.2 = last.1 ∨ ∀ row ∈ table, ¬ Completes row.2 last.1 := by
  constructor
  · intro heq
    refine or_iff_not_imp_right.2 fun hvalues => ?_
    push Not at hvalues
    obtain ⟨row, hrow, hvalue⟩ := hvalues
    obtain ⟨cs, hnone, hpos⟩ := h.exists_occurrences_pos hrow hvalue
    refine h.marked_last.eq_of_replaceAll_eq hpos ?_
    rw [heq, h.replaceEach_of_occurrences_eq_zero hnone]
  · rintro (hself | hvalues) cs
    · have hlast : IsTable mark ([] ++ [last]) := h.sublist (List.sublist_append_right _ _)
      rw [h.replaceEach_self hself, replaceAll_eq_replaceEach]
      exact (hlast.replaceEach_self hself _).trans (replaceEach_nil_table _)
    · exact h.replaceAll_replaceEach (h.occurrences_replaceEach hvalues cs)

/-- Another value for the last pattern leaves a table. -/
theorem withValue (h : IsTable mark (table ++ [last])) (value : List Char) :
    IsTable mark (table ++ [(last.1, value)]) where
  marked row hrow := by
    rcases List.mem_append.1 hrow with hrow | hrow
    · exact h.init.marked row hrow
    · rw [List.mem_singleton.1 hrow]
      exact h.marked_last
  apart := by
    refine List.pairwise_append.2 ⟨h.init.apart, List.pairwise_singleton _ _, ?_⟩
    intro row hrow other hother
    rw [List.mem_singleton.1 hother]
    exact h.areApart_last hrow

/-- Patterns may be replaced one after the other, whatever the text and the value of the last
are, exactly if the others may and none of their values completes the last. -/
theorem forall_replaceInTurn_iff (h : IsTable mark (table ++ [last])) :
    (∀ value cs, replaceInTurn (table ++ [(last.1, value)]) cs =
        replaceEach (table ++ [(last.1, value)]) cs) ↔
      (∀ cs, replaceInTurn table cs = replaceEach table cs) ∧
        ∀ row ∈ table, ¬ Completes row.2 last.1 := by
  simp only [replaceInTurn_append_singleton]
  constructor
  · intro heq
    have hself := h.withValue last.1
    have hinit : ∀ cs, replaceInTurn table cs = replaceEach table cs := by
      intro cs
      have hlast : IsTable mark ([] ++ [(last.1, last.1)]) :=
        hself.sublist (List.sublist_append_right _ _)
      have hsame := heq last.1 cs
      rw [hself.replaceEach_self rfl, replaceAll_eq_replaceEach] at hsame
      rw [← hsame]
      exact ((hlast.replaceEach_self rfl _).trans (replaceEach_nil_table _)).symm
    refine ⟨hinit, ?_⟩
    have hempty := (h.withValue []).forall_replaceAll_replaceEach_iff.1
      fun cs => by rw [← hinit, ← heq [] cs]
    exact hempty.resolve_left h.marked_last.ne_nil.symm
  · rintro ⟨hinit, hvalues⟩ value cs
    rw [hinit]
    exact (h.withValue value).forall_replaceAll_replaceEach_iff.2 (Or.inr hvalues) cs

end IsTable

end

end ZoneGuard.Text
