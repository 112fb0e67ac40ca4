import Mathlib
import ZoneGuard.IdTable
import ZoneGuard.Proofs.Identifier

/-!
# Names drawn from a counter

A numbered name can be read back to its number, so among one name more than
there are taken ones at least one is free.  The search for a free name thus
ends, with or without a bound on its attempts, and it stops at the first one.
As the counter goes on behind that name, no name is drawn twice, whatever else
is taken from one draw to the next.
-/

namespace ZoneGuard

theorem numberedName_injective (stem : String) : Function.Injective (numberedName stem) := by
  intro m n heq
  have hchars := congrArg String.toList heq
  simp only [numberedName, String.toList_append] at hchars
  have hdigits := List.append_cancel_left hchars
  have hnumber := congrArg (fun ds => Nat.ofDigitChars 10 ds 0) hdigits
  simpa [Nat.toString_eq_ofList_toDigits] using hnumber

/-- A numbered name is an identifier if its stem is one. -/
theorem isIdentifier_numberedName {stem : String} (h : IsIdentifier stem.toList) (n : Nat) :
    IsIdentifier (numberedName stem n).toList := by
  have hdigits : ∀ c ∈ (toString n).toList, isWordChar c = true := by
    intro c hc
    rw [Nat.toString_eq_ofList_toDigits, String.toList_ofList] at hc
    exact isWordChar_of_isDigit (Nat.isDigit_of_mem_toDigits (by omega) (by omega) hc)
  simp only [numberedName, String.toList_append]
  cases hstem : stem.toList with
  | nil => exact absurd hstem h.ne_nil
  | cons c cs =>
      rw [hstem] at h
      refine ⟨h.1, fun d hd => ?_⟩
      rcases List.mem_append.1 hd with hd | hd
      · rcases List.mem_append.1 hd with hd | hd
        · exact h.2 d hd
        · rw [List.mem_singleton.1 hd]
          decide
      · exact hdigits d hd

/-- The identifier made from a numbered name is that name. -/
theorem text_ofText_numberedName {stem : String} (h : IsIdentifier stem.toList) (n : Nat) :
    (Identifier.ofText (numberedName stem n)).text = numberedName stem n :=
  Identifier.text_ofText_eq_iff.2 (isIdentifier_numberedName h n)

/-- Names with different numbers have different identifiers. -/
theorem ofText_numberedName_injective {stem : String} (h : IsIdentifier stem.toList) :
    Function.Injective fun n => Identifier.ofText (numberedName stem n) := by
  intro m n heq
  have htext := congrArg Identifier.text heq
  simp only [text_ofText_numberedName h] at htext
  exact numberedName_injective stem htext

/-! ## The search -/

/-- The numbers from `next` on whose names are free. -/
def freeNumbers (stem : String) (isTaken : String → Bool) (next : Nat) : Set Nat :=
  {n | next ≤ n ∧ isTaken (numberedName stem n) = false}

variable {stem : String} {isTaken : String → Bool} {next n : Nat}

/-- The least free number is free, and all from the start up to it are taken. -/
theorem isLeast_freeNumbers_iff : IsLeast (freeNumbers stem isTaken next) n ↔
    next ≤ n ∧ isTaken (numberedName stem n) = false ∧
      ∀ m, next ≤ m → m < n → isTaken (numberedName stem m) = true := by
  constructor
  · rintro ⟨⟨hle, hfree⟩, hleast⟩
    refine ⟨hle, hfree, fun m hm hlt => ?_⟩
    by_contra hfree'
    exact absurd (hleast ⟨hm, by simpa using hfree'⟩) (Nat.not_le_of_lt hlt)
  · rintro ⟨hle, hfree, hbefore⟩
    refine ⟨⟨hle, hfree⟩, ?_⟩
    rintro m ⟨hm, hfree'⟩
    by_contra hlt
    rw [hbefore m hm (Nat.lt_of_not_le hlt)] at hfree'
    cases hfree'

theorem isLeast_freeNumbers_self (hfree : isTaken (numberedName stem next) = false) :
    IsLeast (freeNumbers stem isTaken next) next :=
  ⟨⟨Nat.le_refl next, hfree⟩, fun _ hm => hm.1⟩

/-- A taken name can be passed over. -/
theorem freeNumbers_succ (htaken : isTaken (numberedName stem next) = true) :
    freeNumbers stem isTaken (next + 1) = freeNumbers stem isTaken next := by
  ext m
  constructor
  · rintro ⟨hle, hfree⟩
    exact ⟨Nat.le_of_succ_le hle, hfree⟩
  · rintro ⟨hle, hfree⟩
    refine ⟨Nat.lt_of_le_of_ne hle ?_, hfree⟩
    rintro rfl
    rw [htaken] at hfree
    cases hfree

/-- A number that is found is the least free one. -/
theorem leastFree?_eq_some {attempts : Nat}
    (h : leastFree? stem isTaken attempts next = some n) :
    IsLeast (freeNumbers stem isTaken next) n := by
  induction attempts generalizing next with
  | zero => cases h
  | succ attempts ih =>
      unfold leastFree? at h
      split at h
      · next htaken =>
        rw [← freeNumbers_succ htaken]
        exact ih h
      · next hfree =>
        cases h
        exact isLeast_freeNumbers_self (by simpa using hfree)

/-- If the search runs out, all numbers it has seen are taken. -/
theorem leastFree?_eq_none {attempts : Nat}
    (h : leastFree? stem isTaken attempts next = none) :
    ∀ n ∈ List.range' next attempts, isTaken (numberedName stem n) = true := by
  induction attempts generalizing next with
  | zero => simp
  | succ attempts ih =>
      unfold leastFree? at h
      split at h
      · next htaken =>
        intro n hn
        rw [List.range'_succ] at hn
        rcases List.mem_cons.1 hn with rfl | hn
        · exact htaken
        · exact ih h n hn
      · cases h

/-- Of one number more than there are marks in use one is free, if a taken
number has its mark in use and no two numbers have the same. -/
theorem exists_leastFree?_eq_some {α : Type} {mark : Nat → α} (hmark : Function.Injective mark)
    {used : List α} (hused : ∀ n, isTaken (numberedName stem n) = true → mark n ∈ used)
    {taken : Nat} (htaken : used.length ≤ taken) (next : Nat) :
    ∃ n, leastFree? stem isTaken (taken + 1) next = some n := by
  cases hfound : leastFree? stem isTaken (taken + 1) next with
  | some n => exact ⟨n, rfl⟩
  | none =>
      -- One mark more than there are would be in use.
      have hall := leastFree?_eq_none hfound
      have hnodup : ((List.range' next (taken + 1)).map mark).Nodup :=
        List.Nodup.map hmark List.nodup_range'
      have hsubset : (List.range' next (taken + 1)).map mark ⊆ used := by
        intro m hm
        obtain ⟨n, hn, rfl⟩ := List.mem_map.1 hm
        exact hused n (hall n hn)
      have hlength := (hnodup.subperm hsubset).length_le
      simp only [List.length_map, List.length_range'] at hlength
      omega

theorem allocateName_of_leastFree? {taken : Nat}
    (h : leastFree? stem isTaken (taken + 1) next = some n) :
    allocateName stem isTaken taken next = (numberedName stem n, n + 1) := by
  simp [allocateName, h]

/-- A name is found if the taken ones have at most `taken` identifiers. -/
theorem allocateName_spec (hstem : IsIdentifier stem.toList) {used : List Identifier}
    (hused : ∀ name, isTaken name = true → Identifier.ofText name ∈ used)
    {taken : Nat} (htaken : used.length ≤ taken) (next : Nat) :
    ∃ n, allocateName stem isTaken taken next = (numberedName stem n, n + 1) ∧
      IsLeast (freeNumbers stem isTaken next) n := by
  obtain ⟨n, hfound⟩ := exists_leastFree?_eq_some (ofText_numberedName_injective hstem)
    (fun n => hused (numberedName stem n)) htaken next
  exact ⟨n, allocateName_of_leastFree? hfound, leastFree?_eq_some hfound⟩

/-! ## The search without a bound -/

/-- A name is drawn, and the counter goes on behind it: one number after the
other is tried, for as long as its name is taken.  A search that never ends
draws nothing. -/
inductive Draws (stem : String) (isTaken : String → Bool) : Nat → String × Nat → Prop where
  | free {next : Nat} (hfree : isTaken (numberedName stem next) = false) :
      Draws stem isTaken next (numberedName stem next, next + 1)
  | taken {next : Nat} {drawn : String × Nat}
      (htaken : isTaken (numberedName stem next) = true)
      (rest : Draws stem isTaken (next + 1) drawn) : Draws stem isTaken next drawn

/-- A draw has the least free number, and goes on behind it. -/
theorem Draws.exists_isLeast {drawn : String × Nat} (h : Draws stem isTaken next drawn) :
    ∃ n, IsLeast (freeNumbers stem isTaken next) n ∧ drawn = (numberedName stem n, n + 1) := by
  induction h with
  | @free next hfree => exact ⟨next, isLeast_freeNumbers_self hfree, rfl⟩
  | taken htaken rest ih =>
      rw [← freeNumbers_succ htaken]
      exact ih

theorem draws_of_isLeast (h : IsLeast (freeNumbers stem isTaken next) n) :
    Draws stem isTaken next (numberedName stem n, n + 1) := by
  -- The induction is on how many names are passed over.
  obtain ⟨passed, rfl⟩ := Nat.exists_eq_add_of_le h.1.1
  induction passed generalizing next with
  | zero => exact .free h.1.2
  | succ passed ih =>
      have htaken := (isLeast_freeNumbers_iff.1 h).2.2 next (Nat.le_refl next) (by omega)
      have hsum : next + (passed + 1) = next + 1 + passed := by omega
      rw [hsum] at h ⊢
      rw [← freeNumbers_succ htaken] at h
      exact .taken htaken (ih h)

/-- What is drawn is the least free number, and nothing else can be drawn. -/
theorem draws_iff_of_isLeast {drawn : String × Nat}
    (h : IsLeast (freeNumbers stem isTaken next) n) :
    Draws stem isTaken next drawn ↔ drawn = (numberedName stem n, n + 1) := by
  constructor
  · intro hdraws
    obtain ⟨m, hm, rfl⟩ := hdraws.exists_isLeast
    rw [hm.unique h]
  · rintro rfl
    exact draws_of_isLeast h

/-- A draw comes to one name only. -/
theorem Draws.unique {drawn drawn' : String × Nat} (h : Draws stem isTaken next drawn)
    (h' : Draws stem isTaken next drawn') : drawn = drawn' := by
  obtain ⟨n, hn, rfl⟩ := h.exists_isLeast
  exact ((draws_iff_of_isLeast hn).1 h').symm

def takenNames (stem : String) (isTaken : String → Bool) : Set String :=
  {name | isTaken name = true ∧ ∃ n, numberedName stem n = name}

theorem takenNames_contains_subset (stem : String) (names : List String) :
    takenNames stem names.contains ⊆ names.toFinset := by
  rintro name ⟨htaken, -⟩
  simpa using htaken

theorem finite_takenNames_contains (stem : String) (names : List String) :
    (takenNames stem names.contains).Finite :=
  names.toFinset.finite_toSet.subset (takenNames_contains_subset stem names)

theorem ncard_takenNames_contains_le (stem : String) (names : List String) :
    (takenNames stem names.contains).ncard ≤ names.length :=
  calc
    (takenNames stem names.contains).ncard ≤ (names.toFinset : Set String).ncard :=
      Set.ncard_le_ncard (takenNames_contains_subset stem names)
    _ = names.toFinset.card := Set.ncard_coe_finset _
    _ ≤ names.length := names.toFinset_card_le

/-- If finitely many names are taken, as many attempts as there are, and one
more, are enough to find a free one. -/
theorem exists_leastFree?_of_finite (hfinite : (takenNames stem isTaken).Finite) {taken : Nat}
    (htaken : (takenNames stem isTaken).ncard ≤ taken) (next : Nat) :
    ∃ n, leastFree? stem isTaken (taken + 1) next = some n := by
  have hused : ∀ n, isTaken (numberedName stem n) = true →
      numberedName stem n ∈ hfinite.toFinset.toList := by
    intro n hn
    rw [Finset.mem_toList, Set.Finite.mem_toFinset]
    exact ⟨hn, n, rfl⟩
  have hlength : hfinite.toFinset.toList.length ≤ taken := by
    rw [Finset.length_toList, ← Set.ncard_eq_toFinset_card _ hfinite]
    exact htaken
  exact exists_leastFree?_eq_some (numberedName_injective stem) hused hlength next

/-- If finitely many names are taken, the search ends at the least free number,
and so it does with a bound that allows for them. -/
theorem exists_draws_of_finite (hfinite : (takenNames stem isTaken).Finite) (next : Nat) :
    ∃ n, IsLeast (freeNumbers stem isTaken next) n ∧
      (∀ drawn, Draws stem isTaken next drawn ↔ drawn = (numberedName stem n, n + 1)) ∧
      ∀ taken, (takenNames stem isTaken).ncard ≤ taken →
        allocateName stem isTaken taken next = (numberedName stem n, n + 1) := by
  obtain ⟨n, hn⟩ := exists_leastFree?_of_finite hfinite (Nat.le_refl _) next
  have hleast := leastFree?_eq_some hn
  refine ⟨n, hleast, fun drawn => draws_iff_of_isLeast hleast, fun taken htaken => ?_⟩
  obtain ⟨m, hm⟩ := exists_leastFree?_of_finite hfinite htaken next
  rw [allocateName_of_leastFree? hm, (leastFree?_eq_some hm).unique hleast]

/-! ## Names drawn one after the other -/

/-- Names are drawn from one counter, each with what is taken at the time. -/
inductive DrawsAll (stem : String) :
    List (String → Bool) → Nat → List (String × Nat) → Prop where
  | nil {next : Nat} : DrawsAll stem [] next []
  | cons {isTaken : String → Bool} {calls : List (String → Bool)} {next : Nat}
      {drawn : String × Nat} {later : List (String × Nat)}
      (first : Draws stem isTaken next drawn) (rest : DrawsAll stem calls drawn.2 later) :
      DrawsAll stem (isTaken :: calls) next (drawn :: later)

/-- The same with the bounded search, where no more than `taken` names are
taken at any time. -/
def allocateNames (stem : String) (taken : Nat) :
    List (String → Bool) → Nat → List (String × Nat)
  | [], _ => []
  | isTaken :: calls, next =>
    let drawn := allocateName stem isTaken taken next
    drawn :: allocateNames stem taken calls drawn.2

section

variable {calls : List (String → Bool)} {results results' : List (String × Nat)}

theorem DrawsAll.unique (h : DrawsAll stem calls next results)
    (h' : DrawsAll stem calls next results') : results = results' := by
  induction h generalizing results' with
  | nil =>
      cases h'
      rfl
  | cons first rest ih =>
      cases h' with
      | cons first' rest' =>
          cases first.unique first'
          rw [ih rest']

/-- The numbers ascend, because each counter is behind what has been drawn. -/
theorem DrawsAll.exists_numbers (h : DrawsAll stem calls next results) :
    ∃ numbers : List Nat, results = numbers.map (fun n => (numberedName stem n, n + 1)) ∧
      (∀ n ∈ numbers, next ≤ n) ∧ numbers.Pairwise (· < ·) := by
  induction h with
  | nil => exact ⟨[], rfl, by simp, List.Pairwise.nil⟩
  | @cons isTaken calls next drawn later first rest ih =>
      obtain ⟨n, hn, rfl⟩ := first.exists_isLeast
      obtain ⟨numbers, rfl, hbehind, hascending⟩ := ih
      refine ⟨n :: numbers, rfl, ?_, List.Pairwise.cons hbehind hascending⟩
      intro m hm
      rcases List.mem_cons.1 hm with rfl | hm
      · exact hn.1.1
      · exact hn.1.1.trans (Nat.le_of_succ_le (hbehind m hm))

/-- The bounded search draws what the search without a bound does. -/
theorem drawsAll_allocateNames {taken : Nat}
    (hfinite : ∀ isTaken ∈ calls, (takenNames stem isTaken).Finite)
    (htaken : ∀ isTaken ∈ calls, (takenNames stem isTaken).ncard ≤ taken) (next : Nat) :
    DrawsAll stem calls next (allocateNames stem taken calls next) := by
  induction calls generalizing next with
  | nil => exact .nil
  | cons isTaken calls ih =>
      rw [List.forall_mem_cons] at hfinite htaken
      obtain ⟨n, -, hdraws, hallocate⟩ := exists_draws_of_finite hfinite.1 next
      exact .cons ((hdraws _).2 (hallocate taken htaken.1)) (ih hfinite.2 htaken.2 _)

/-- Each of several draws ends if each time finitely many names are taken. -/
theorem exists_drawsAll (hfinite : ∀ isTaken ∈ calls, (takenNames stem isTaken).Finite)
    (next : Nat) : ∃ results, DrawsAll stem calls next results := by
  have htaken : ∀ isTaken ∈ calls, (takenNames stem isTaken).ncard ≤
      (calls.map fun isTaken => (takenNames stem isTaken).ncard).sum :=
    fun isTaken hcall => List.le_sum_of_mem (List.mem_map_of_mem hcall)
  exact ⟨_, drawsAll_allocateNames hfinite htaken next⟩

end

/-- A draw ends if finitely many names are taken, and gives the least free one.
Names drawn one after the other have ascending numbers, so they are distinct
even if no draw knows of the others. -/
theorem draws_isLeast_and_drawsAll_nodup (stem : String) :
    (∀ isTaken next, (takenNames stem isTaken).Finite →
      ∃ n, IsLeast (freeNumbers stem isTaken next) n ∧
        (∀ drawn, Draws stem isTaken next drawn ↔ drawn = (numberedName stem n, n + 1)) ∧
        ∀ taken, (takenNames stem isTaken).ncard ≤ taken →
          allocateName stem isTaken taken next = (numberedName stem n, n + 1)) ∧
    ∀ calls next, (∀ isTaken ∈ calls, (takenNames stem isTaken).Finite) →
      ∃ numbers : List Nat,
        (∀ results, DrawsAll stem calls next results ↔
          results = numbers.map fun n => (numberedName stem n, n + 1)) ∧
        (∀ taken, (∀ isTaken ∈ calls, (takenNames stem isTaken).ncard ≤ taken) →
          allocateNames stem taken calls next =
            numbers.map fun n => (numberedName stem n, n + 1)) ∧
        numbers.Pairwise (· < ·) ∧ (numbers.map (numberedName stem)).Nodup := by
  constructor
  · intro isTaken next hfinite
    exact exists_draws_of_finite hfinite next
  · intro calls next hfinite
    obtain ⟨results, hresults⟩ := exists_drawsAll hfinite next
    obtain ⟨numbers, rfl, -, hascending⟩ := hresults.exists_numbers
    have hnodup : numbers.Nodup := hascending.imp Nat.ne_of_lt
    refine ⟨numbers, fun results => ⟨?_, ?_⟩, ?_, hascending,
      hnodup.map (numberedName_injective stem)⟩
    · intro hresults'
      exact hresults'.unique hresults
    · rintro rfl
      exact hresults
    · intro taken htaken
      exact (drawsAll_allocateNames hfinite htaken next).unique hresults

/-- Three draws, none of which knows what the others have drawn. -/
def forgetfulCalls : List (String → Bool) :=
  [["conn_0", "conn_2"].contains, [].contains, ["conn_3", "conn_4", "other"].contains]

theorem draws_isLeast_and_drawsAll_nodup_forgetfulCalls :
    (∀ isTaken ∈ forgetfulCalls, (takenNames "conn" isTaken).Finite) ∧
      (∀ isTaken ∈ forgetfulCalls, (takenNames "conn" isTaken).ncard ≤ 3) ∧
      allocateNames "conn" 3 forgetfulCalls 0 = [("conn_1", 2), ("conn_2", 3), ("conn_5", 6)] ∧
      DrawsAll "conn" forgetfulCalls 0 [("conn_1", 2), ("conn_2", 3), ("conn_5", 6)] ∧
      ["conn_1", "conn_2", "conn_5"].Nodup := by
  have hfinite : ∀ isTaken ∈ forgetfulCalls, (takenNames "conn" isTaken).Finite := by
    simp [forgetfulCalls, finite_takenNames_contains]
  have htaken : ∀ isTaken ∈ forgetfulCalls, (takenNames "conn" isTaken).ncard ≤ 3 := by
    simp only [forgetfulCalls, List.forall_mem_cons, List.not_mem_nil, false_implies,
      implies_true, and_true]
    exact ⟨(ncard_takenNames_contains_le _ _).trans (by decide),
      (ncard_takenNames_contains_le _ _).trans (by decide), ncard_takenNames_contains_le _ _⟩
  have hrun : allocateNames "conn" 3 forgetfulCalls 0 =
      [("conn_1", 2), ("conn_2", 3), ("conn_5", 6)] := by decide +kernel
  obtain ⟨numbers, hdraws, hallocate, -, hnodup⟩ :=
    (draws_isLeast_and_drawsAll_nodup "conn").2 forgetfulCalls 0 hfinite
  have hresults := hrun.symm.trans (hallocate 3 htaken)
  have hnames : ["conn_1", "conn_2", "conn_5"] = numbers.map (numberedName "conn") := by
    simpa [Function.comp_def] using congrArg (List.map Prod.fst) hresults
  exact ⟨hfinite, htaken, hrun, (hdraws _).2 hresults, hnames ▸ hnodup⟩

end ZoneGuard
