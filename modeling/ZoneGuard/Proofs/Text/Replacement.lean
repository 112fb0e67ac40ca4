import Mathlib
import ZoneGuard.Text.Splice

/-!
# Replacing patterns in one pass

The patterns of a table begin with a mark that stands in them only once, so no two
occurrences overlap, and one pass over a text replaces them all.  What a value can add to
the occurrences of a pattern is told by the value and the pattern alone.
-/

namespace ZoneGuard.Text

/-! ## Occurrences -/

/-- The number of places at which the pattern stands. -/
def occurrences (pattern cs : List Char) : Nat := cs.tails.countP (pattern.isPrefixOf ·)

/-- The pattern begins with the mark and has it nowhere else. -/
def IsMarked (mark : Char) (pattern : List Char) : Prop :=
  ∃ body, pattern = mark :: body ∧ mark ∉ body

theorem isPrefix_append_cases {pattern front cs : List Char} (h : pattern <+: front ++ cs) :
    pattern <+: front ∨ ∃ back, pattern = front ++ back ∧ back <+: cs := by
  rcases List.prefix_or_prefix_of_prefix h (List.prefix_append front cs) with h' | ⟨back, rfl⟩
  · exact Or.inl h'
  · exact Or.inr ⟨back, rfl, (List.prefix_append_right_inj front).1 h⟩

section

variable {mark : Char} {pattern : List Char}

theorem IsMarked.ne_nil (h : IsMarked mark pattern) : pattern ≠ [] := by
  obtain ⟨body, rfl, -⟩ := h
  exact List.cons_ne_nil _ _

/-- A part of the pattern that does not begin it is without the mark. -/
theorem IsMarked.notMem_of_append (h : IsMarked mark pattern) {front back : List Char}
    (hsplit : pattern = front ++ back) (hne : front ≠ []) : mark ∉ back := by
  obtain ⟨body, rfl, hbody⟩ := h
  obtain ⟨c, cs, rfl⟩ := List.exists_cons_of_ne_nil hne
  obtain ⟨-, rfl⟩ := List.cons.inj hsplit
  exact fun hmem => hbody (List.mem_append_right _ hmem)

/-- A pattern that begins before another one ends there as well. -/
theorem IsMarked.isPrefix_of_isPrefix_append (h : IsMarked mark pattern) {other : List Char}
    (hother : IsMarked mark other) {front cs : List Char} (hne : front ≠ [])
    (hbegins : pattern <+: front ++ (other ++ cs)) : pattern <+: front := by
  rcases isPrefix_append_cases hbegins with hle | ⟨back, hsplit, hback⟩
  · exact hle
  · obtain ⟨body, rfl, -⟩ := hother
    cases back with
    | nil => exact hsplit ▸ (List.append_nil front).symm ▸ List.prefix_rfl
    | cons c back =>
        obtain ⟨rfl, -⟩ := List.cons_prefix_cons.1 hback
        exact absurd List.mem_cons_self (h.notMem_of_append hsplit hne)

theorem IsMarked.not_isPrefix_cons (h : IsMarked mark pattern) {c : Char} (hc : c ≠ mark)
    (cs : List Char) : ¬ pattern <+: c :: cs := by
  obtain ⟨body, rfl, -⟩ := h
  intro hbegins
  exact hc (List.cons_prefix_cons.1 hbegins).1.symm

theorem occurrences_cons_of_isPrefix {c : Char} {cs : List Char} (h : pattern <+: c :: cs) :
    occurrences pattern (c :: cs) = occurrences pattern cs + 1 := by
  rw [occurrences, List.tails_cons, List.countP_cons_of_pos (by simpa using h), occurrences]

theorem occurrences_cons_of_not_isPrefix {c : Char} {cs : List Char}
    (h : ¬ pattern <+: c :: cs) : occurrences pattern (c :: cs) = occurrences pattern cs := by
  rw [occurrences, List.tails_cons, List.countP_cons_of_neg (by simpa using h), occurrences]

theorem occurrences_nil (h : pattern ≠ []) : occurrences pattern [] = 0 := by
  simpa [occurrences] using h

/-- Text in front of an occurrence does not hide it. -/
theorem occurrences_le_append (pattern front cs : List Char) :
    occurrences pattern cs ≤ occurrences pattern (front ++ cs) := by
  induction front with
  | nil => exact le_rfl
  | cons c front ih =>
      rw [List.cons_append]
      by_cases h : pattern <+: c :: (front ++ cs)
      · rw [occurrences_cons_of_isPrefix h]
        exact ih.trans (Nat.le_succ _)
      · rwa [occurrences_cons_of_not_isPrefix h]

theorem occurrences_pos_of_isInfix (h : pattern ≠ []) {cs : List Char}
    (hwithin : pattern <:+: cs) : 0 < occurrences pattern cs := by
  obtain ⟨front, back, rfl⟩ := hwithin
  rw [List.append_assoc]
  refine Nat.lt_of_lt_of_le ?_ (occurrences_le_append pattern front _)
  obtain ⟨c, cs, rfl⟩ := List.exists_cons_of_ne_nil h
  rw [List.cons_append, occurrences_cons_of_isPrefix (List.prefix_append _ _)]
  exact Nat.succ_pos _

/-- No occurrence begins in text without the mark. -/
theorem IsMarked.occurrences_append (h : IsMarked mark pattern) {front : List Char}
    (hfront : mark ∉ front) (cs : List Char) :
    occurrences pattern (front ++ cs) = occurrences pattern cs := by
  induction front with
  | nil => rfl
  | cons c front ih =>
      obtain ⟨hc, hfront⟩ := not_or.1 (List.mem_cons.not.1 hfront)
      rw [List.cons_append, occurrences_cons_of_not_isPrefix (h.not_isPrefix_cons (Ne.symm hc) _),
        ih hfront]

/-- The pattern itself is one more occurrence. -/
theorem IsMarked.occurrences_self_append (h : IsMarked mark pattern) (cs : List Char) :
    occurrences pattern (pattern ++ cs) = occurrences pattern cs + 1 := by
  have hmarked := h
  obtain ⟨body, rfl, hbody⟩ := h
  have hbegins : mark :: body <+: mark :: (body ++ cs) := List.prefix_append (mark :: body) cs
  rw [List.cons_append, occurrences_cons_of_isPrefix hbegins, hmarked.occurrences_append hbody]

end

/-! ## One pass -/

/-- The characters with each occurrence of a pattern of the table replaced by its value.  All
patterns are looked for in one pass, and values are not looked at. -/
def replaceEach (table : List (List Char × List Char)) (cs : List Char) : List Char :=
  go 0 cs
where
  /-- Passes over the `skip` characters that belong to an occurrence replaced already. -/
  go : Nat → List Char → List Char
    | _, [] => []
    | skip + 1, _ :: cs => go skip cs
    | 0, c :: cs =>
      match table.find? fun row => row.1.isPrefixOf (c :: cs) with
      | some row => row.2 ++ go (row.1.length - 1) cs
      | none => c :: go 0 cs

/-- Neither pattern begins the other. -/
def AreApart (row other : List Char × List Char) : Prop :=
  ¬ row.1 <+: other.1 ∧ ¬ other.1 <+: row.1

instance : Std.Symm AreApart := ⟨fun _ _ h => ⟨h.2, h.1⟩⟩

/-- Patterns with their values: each pattern is marked, and none begins another. -/
structure IsTable (mark : Char) (table : List (List Char × List Char)) : Prop where
  marked : ∀ row ∈ table, IsMarked mark row.1
  apart : table.Pairwise AreApart

/-- Replacing one pattern is replacing those of a table with one row. -/
theorem replaceAll_eq_replaceEach (pattern value cs : List Char) :
    replaceAll pattern value cs = replaceEach [(pattern, value)] cs := by
  have hgo : ∀ (cs : List Char) (skip : Nat), replaceAll.go pattern value skip cs =
      replaceEach.go [(pattern, value)] skip cs := by
    intro cs
    induction cs with
    | nil => intro skip; cases skip <;> rfl
    | cons c cs ih =>
        intro skip
        cases skip with
        | zero =>
            by_cases h : pattern.isPrefixOf (c :: cs) = true
            · simp [replaceAll.go, replaceEach.go, h, ih]
            · simp [replaceAll.go, replaceEach.go, h, ih]
        | succ skip => exact ih skip
  exact hgo cs 0

section

variable {mark : Char} {table : List (List Char × List Char)}

theorem replaceEach_nil (table : List (List Char × List Char)) : replaceEach table [] = [] := rfl

theorem replaceEach_go (skip : Nat) (cs : List Char) :
    replaceEach.go table skip cs = replaceEach table (cs.drop skip) := by
  induction skip generalizing cs with
  | zero => rfl
  | succ skip ih =>
      cases cs with
      | nil => rfl
      | cons c cs => exact ih cs

/-- A character at which no pattern begins is kept. -/
theorem replaceEach_cons {c : Char} {cs : List Char}
    (h : ∀ row ∈ table, ¬ row.1 <+: c :: cs) :
    replaceEach table (c :: cs) = c :: replaceEach table cs := by
  have hnone : (table.find? fun row => row.1.isPrefixOf (c :: cs)) = none := by
    simpa using h
  rw [replaceEach, replaceEach.go, hnone]
  rfl

theorem replaceEach_nil_table (cs : List Char) : replaceEach [] cs = cs := by
  induction cs with
  | nil => rfl
  | cons c cs ih => rw [replaceEach_cons (by simp), ih]

namespace IsTable

variable (h : IsTable mark table)
include h

/-- At most one pattern begins at a place. -/
theorem eq_of_isPrefix {row other : List Char × List Char} (hrow : row ∈ table)
    (hother : other ∈ table) {cs : List Char} (hrowPrefix : row.1 <+: cs)
    (hotherPrefix : other.1 <+: cs) : row = other := by
  by_contra hne
  have hapart := h.apart.forall hrow hother hne
  rcases List.prefix_or_prefix_of_prefix hrowPrefix hotherPrefix with hle | hle
  · exact hapart.1 hle
  · exact hapart.2 hle

/-- An occurrence is replaced wherever it begins what is left. -/
theorem replaceEach_append {row : List Char × List Char} (hrow : row ∈ table) (cs : List Char) :
    replaceEach table (row.1 ++ cs) = row.2 ++ replaceEach table cs := by
  obtain ⟨c, rest, hpattern⟩ := List.exists_cons_of_ne_nil (h.marked row hrow).ne_nil
  have hbegins : row.1 <+: row.1 ++ cs := List.prefix_append _ _
  have hfind : (table.find? fun r => r.1.isPrefixOf (row.1 ++ cs)) = some row := by
    cases hfound : table.find? fun r => r.1.isPrefixOf (row.1 ++ cs) with
    | none =>
        have hnone := List.find?_eq_none.1 hfound row hrow
        exact absurd (List.isPrefixOf_iff_prefix.2 hbegins) hnone
    | some other =>
        have hother : other.1.isPrefixOf (row.1 ++ cs) = true := by
          simpa using List.find?_some hfound
        rw [h.eq_of_isPrefix hrow (List.mem_of_find?_eq_some hfound) hbegins
          (List.isPrefixOf_iff_prefix.1 hother)]
  rw [hpattern, List.cons_append] at hfind
  have hstep : replaceEach table (row.1 ++ cs) =
      row.2 ++ replaceEach.go table (row.1.length - 1) (rest ++ cs) := by
    conv_lhs => rw [hpattern, List.cons_append, replaceEach, replaceEach.go, hfind]
  rw [hstep, replaceEach_go, hpattern, List.length_cons, Nat.add_sub_cancel, List.drop_left]

theorem replaceEach_append_of_notMem {front : List Char} (hfront : mark ∉ front)
    (cs : List Char) : replaceEach table (front ++ cs) = front ++ replaceEach table cs := by
  induction front with
  | nil => rfl
  | cons c front ih =>
      obtain ⟨hc, hfront⟩ := not_or.1 (List.mem_cons.not.1 hfront)
      rw [List.cons_append, replaceEach_cons, ih hfront, List.cons_append]
      exact fun row hrow => (h.marked row hrow).not_isPrefix_cons (Ne.symm hc) _

/-- A text without the mark is left as it is. -/
theorem replaceEach_of_notMem {cs : List Char} (hcs : mark ∉ cs) : replaceEach table cs = cs := by
  have happend := h.replaceEach_append_of_notMem hcs []
  rwa [List.append_nil, replaceEach_nil, List.append_nil] at happend

omit h in
/-- A text is read as occurrences of the patterns and characters at which none begins. -/
theorem text_induction {motive : List Char → Prop} (h : IsTable mark table) (nil : motive [])
    (row : ∀ row ∈ table, ∀ cs, motive cs → motive (row.1 ++ cs))
    (char : ∀ c cs, (∀ row ∈ table, ¬ row.1 <+: c :: cs) → motive cs → motive (c :: cs))
    (cs : List Char) : motive cs := by
  induction hlength : cs.length using Nat.strong_induction_on generalizing cs with
  | _ n ih =>
      subst hlength
      cases cs with
      | nil => exact nil
      | cons c cs =>
          by_cases hbegins : ∃ row ∈ table, row.1 <+: c :: cs
          · obtain ⟨found, hfound, rest, hrest⟩ := hbegins
            have hpos := List.length_pos_iff.2 (h.marked found hfound).ne_nil
            rw [← hrest]
            refine row found hfound rest (ih rest.length ?_ rest rfl)
            rw [← hrest, List.length_append]
            omega
          · have hnone : ∀ row ∈ table, ¬ row.1 <+: c :: cs :=
              fun row hrow hp => hbegins ⟨row, hrow, hp⟩
            exact char c cs hnone (ih cs.length (by simp) cs rfl)

theorem sublist {part : List (List Char × List Char)} (hpart : part.Sublist table) :
    IsTable mark part where
  marked row hrow := h.marked row (hpart.subset hrow)
  apart := h.apart.sublist hpart

end IsTable

end

/-! ## One pattern -/

section

variable {mark : Char} {pattern : List Char}

/-- No occurrence begins in the front if none begins with a part of its end. -/
theorem occurrences_append_of_forall {value cs : List Char}
    (h : ∀ front back, value = front ++ back → back ≠ [] → ¬ pattern <+: back ++ cs) :
    occurrences pattern (value ++ cs) = occurrences pattern cs := by
  induction value with
  | nil => rfl
  | cons c value ih =>
      have hnone : ¬ pattern <+: c :: (value ++ cs) := h [] (c :: value) rfl (by simp)
      rw [List.cons_append, occurrences_cons_of_not_isPrefix hnone]
      exact ih fun front back hvalue => h (c :: front) back (by rw [hvalue, List.cons_append])

/-- Where no occurrence begins, nothing is replaced. -/
theorem replaceAll_append_of_occurrences_eq {front cs : List Char} (value : List Char)
    (h : occurrences pattern (front ++ cs) = occurrences pattern cs) :
    replaceAll pattern value (front ++ cs) = front ++ replaceAll pattern value cs := by
  induction front with
  | nil => rfl
  | cons c front ih =>
      have hle := occurrences_le_append pattern front cs
      have hnone : ¬ pattern <+: c :: (front ++ cs) := by
        intro hbegins
        rw [List.cons_append, occurrences_cons_of_isPrefix hbegins] at h
        omega
      rw [List.cons_append, occurrences_cons_of_not_isPrefix hnone] at h
      rw [List.cons_append, replaceAll_eq_replaceEach, replaceEach_cons (by simpa using hnone),
        ← replaceAll_eq_replaceEach, ih h, List.cons_append]

theorem IsMarked.isTable (h : IsMarked mark pattern)
    (value : List Char) : IsTable mark [(pattern, value)] where
  marked row hrow := by rwa [List.mem_singleton.1 hrow]
  apart := List.pairwise_singleton _ _

/-- Each occurrence makes way for a value. -/
theorem IsMarked.length_replaceAll (h : IsMarked mark pattern)
    (value cs : List Char) :
    (replaceAll pattern value cs).length + occurrences pattern cs * pattern.length =
      cs.length + occurrences pattern cs * value.length := by
  rw [replaceAll_eq_replaceEach]
  induction cs using (h.isTable value).text_induction with
  | nil => simp [occurrences_nil h.ne_nil, replaceEach_nil]
  | row row hrow cs ih =>
      rw [(h.isTable value).replaceEach_append hrow]
      obtain rfl := List.mem_singleton.1 hrow
      rw [h.occurrences_self_append]
      simp only [List.length_append, Nat.succ_mul]
      omega
  | char c cs hnone ih =>
      rw [replaceEach_cons hnone,
        occurrences_cons_of_not_isPrefix (hnone (pattern, value) List.mem_cons_self)]
      simp only [List.length_cons]
      omega

/-- A text in which an occurrence is replaced changes, unless the pattern stands for itself. -/
theorem IsMarked.eq_of_replaceAll_eq (h : IsMarked mark pattern)
    {value cs : List Char} (hpos : 0 < occurrences pattern cs)
    (heq : replaceAll pattern value cs = cs) : value = pattern := by
  have hlength := h.length_replaceAll value cs
  rw [heq] at hlength
  have hvalue : value.length = pattern.length :=
    (Nat.eq_of_mul_eq_mul_left hpos (Nat.add_left_cancel hlength)).symm
  clear hlength
  rw [replaceAll_eq_replaceEach] at heq
  induction cs using (h.isTable value).text_induction with
  | nil => rw [occurrences_nil h.ne_nil] at hpos; cases hpos
  | row row hrow cs ih =>
      rw [(h.isTable value).replaceEach_append hrow] at heq
      obtain rfl := List.mem_singleton.1 hrow
      exact (List.append_inj heq hvalue).1
  | char c cs hnone ih =>
      rw [replaceEach_cons hnone] at heq
      rw [occurrences_cons_of_not_isPrefix (hnone (pattern, value) List.mem_cons_self)] at hpos
      exact ih hpos (List.cons.inj heq).2

end

/-! ## Values that complete a pattern -/

/-- Between a beginning of the pattern and an end of it, neither of which is all of it, the
value gives an occurrence.  So the value has the pattern in it, or has what is missing of the
pattern to the left, to the right or in the middle of it. -/
def Completes (value pattern : List Char) : Prop :=
  ∃ front ∈ pattern.inits, ∃ back ∈ pattern.tails, front ≠ pattern ∧ back ≠ pattern ∧
    pattern <:+: front ++ value ++ back

instance (value pattern : List Char) : Decidable (Completes value pattern) := by
  unfold Completes
  infer_instance

/-- A value completes a pattern to which a part in front of it and one behind it belong. -/
theorem completes_of_isInfix {value pattern front back : List Char} (hfront : front <+: pattern)
    (hback : back <:+ pattern) (hfrontNe : front ≠ pattern) (hbackNe : back ≠ pattern)
    (h : pattern <:+: front ++ value ++ back) : Completes value pattern :=
  ⟨front, (List.mem_inits _ _).2 hfront, back, (List.mem_tails _ _).2 hback, hfrontNe, hbackNe,
    h⟩

/-- A pattern does not reach over a character that it does not have. -/
theorem isInfix_of_isInfix_append_cons {pattern left right : List Char} {c : Char}
    (hc : c ∉ pattern) (h : pattern <:+: left ++ c :: right) :
    pattern <:+: left ∨ pattern <:+: right := by
  obtain ⟨front, back, heq⟩ := h
  rcases List.append_eq_append_iff.1 heq with ⟨rest, rfl, -⟩ | ⟨rest, hleft, hright⟩
  · exact Or.inl ⟨front, rest, rfl⟩
  · cases rest with
    | nil => exact Or.inl ⟨front, [], by simpa using hleft⟩
    | cons d rest =>
        obtain ⟨rfl, rfl⟩ := List.cons.inj hright
        rcases List.append_eq_append_iff.1 hleft with ⟨more, -, rfl⟩ | ⟨more, -, hmore⟩
        · exact absurd (List.mem_append_right _ List.mem_cons_self) hc
        · cases more with
          | nil =>
              rw [List.nil_append] at hmore
              exact absurd (hmore ▸ List.mem_cons_self) hc
          | cons e more =>
              obtain ⟨-, rfl⟩ := List.cons.inj hmore
              exact Or.inr ⟨more, back, rfl⟩

/-- A pattern cannot end in characters that do not have its last one. -/
theorem isInfix_of_isInfix_append_left {body left right : List Char} {c : Char} (hc : c ∉ right)
    (h : body ++ [c] <:+: left ++ right) : body ++ [c] <:+: left := by
  obtain ⟨front, back, heq⟩ := h
  rcases List.append_eq_append_iff.1 heq with ⟨rest, rfl, -⟩ | ⟨rest, hleft, rfl⟩
  · exact ⟨front, rest, rfl⟩
  · cases rest using List.reverseRecOn with
    | nil => exact ⟨front, [], by simpa using hleft⟩
    | append_singleton rest d =>
        rw [← List.append_assoc, ← List.append_assoc] at hleft
        obtain rfl : c = d := by simpa using (List.append_inj_right' hleft rfl)
        simp at hc

/-- A pattern cannot begin in characters that do not have its first one. -/
theorem isInfix_of_isInfix_append_right {body left right : List Char} {c : Char} (hc : c ∉ left)
    (h : c :: body <:+: left ++ right) : c :: body <:+: right := by
  obtain ⟨front, back, heq⟩ := h
  rw [List.append_assoc] at heq
  rcases List.append_eq_append_iff.1 heq with ⟨rest, rfl, hright⟩ | ⟨rest, -, rfl⟩
  · cases rest with
    | nil => exact ⟨[], back, by simpa using hright⟩
    | cons d rest =>
        obtain ⟨rfl, -⟩ := List.cons.inj hright
        simp at hc
  · exact ⟨rest, back, by rw [List.append_assoc]⟩

/-- A value with a character that the pattern does not have completes it neither in its middle
nor, without the characters at its ends, to one side. -/
theorem not_completes_of_mem {first last c : Char} (body : List Char) {value : List Char}
    (hc : c ∈ value) (hnone : c ∉ first :: (body ++ [last])) (hfirst : first ∉ value)
    (hlast : last ∉ value) : ¬ Completes value (first :: (body ++ [last])) := by
  rintro ⟨front, hfront, back, hback, hfrontNe, hbackNe, hwithin⟩
  obtain ⟨left, right, rfl⟩ := List.append_of_mem hc
  have hsplit : front ++ (left ++ c :: right) ++ back = front ++ left ++ c :: (right ++ back) := by
    simp
  rw [hsplit] at hwithin
  rcases isInfix_of_isInfix_append_cons hnone hwithin with hleft | hright
  · rw [← List.cons_append] at hleft hfront hfrontNe
    have hle := isInfix_of_isInfix_append_left (fun hmem => hlast (List.mem_append_left _ hmem))
      hleft
    exact hfrontNe (((List.mem_inits _ _).1 hfront).eq_of_length_le hle.length_le)
  · have hle := isInfix_of_isInfix_append_right
      (fun hmem => hfirst (List.mem_append_right _ (List.mem_cons_of_mem _ hmem))) hright
    exact hbackNe (((List.mem_tails _ _).1 hback).eq_of_length_le hle.length_le)

end ZoneGuard.Text
