import Mathlib
import ZoneGuard.Proofs.Markup.OpenElements

/-!
# Where a document goes wrong

Tags are viable if a document begins with them.  They are so exactly if the builder
accepts them, because the elements that are open can be closed.  A fault is therefore
reported at the first tag that no document has in its place, or at the end if there is
no such tag.
-/

namespace ZoneGuard.Markup

/-- The tags stand at the beginning of a document. -/
def IsViable (ts : List Token) : Prop :=
  ∃ behind stop root, Element.ofTokens (ts ++ behind) stop = .ok root

def closingTokens (os : List OpenElement) : List Token := os.map fun o => ⟨.closing o.name, 0⟩

namespace Builder

theorem exists_run_closingTokens (o : OpenElement) (outer : List OpenElement) :
    ∃ root, run (.building o outer) (closingTokens (o :: outer)) = .ok (.finished root) := by
  induction outer generalizing o with
  | nil => exact ⟨o.close, run_cons (next_closing o [] 0) []⟩
  | cons parent outer ih =>
      obtain ⟨root, hroot⟩ := ih (parent.add o.close)
      refine ⟨root, ?_⟩
      rw [closingTokens, List.map_cons, run_cons (next_closing o (parent :: outer) 0)]
      exact hroot

/-- Whatever the builder has accepted can be completed. -/
theorem exists_run_finished (b : Builder) :
    ∃ behind root, b.run behind = .ok (.finished root) := by
  cases b with
  | empty => exact ⟨[⟨.opening "" [] true, 0⟩], _, rfl⟩
  | building o outer => exact ⟨_, exists_run_closingTokens o outer⟩
  | finished root => exact ⟨[], root, rfl⟩

/-- Reading fails at the first tag that the builder refuses. -/
theorem run_eq_error_iff {b : Builder} {ts : List Token} {e : LocatedNestingFault} :
    b.run ts = .error e ↔ ∃ before t after b', ts = before ++ t :: after ∧
      b.run before = .ok b' ∧ b'.next t = .error e := by
  induction ts generalizing b with
  | nil => simp [run]
  | cons t ts ih =>
      rw [run]
      cases hnext : b.next t with
      | error e' =>
          constructor
          · intro h
            cases h
            exact ⟨[], t, ts, b, rfl, rfl, hnext⟩
          · rintro ⟨before, t', after, b', hsplit, hrun, hnext'⟩
            cases before with
            | nil =>
                cases hsplit
                cases hrun
                exact hnext.symm.trans hnext'
            | cons first before =>
                cases hsplit
                rw [run, hnext] at hrun
                cases hrun
      | ok between =>
          simp only [ih]
          constructor
          · rintro ⟨before, t', after, b', rfl, hrun, hnext'⟩
            exact ⟨t :: before, t', after, b', rfl, (run_cons hnext before).trans hrun, hnext'⟩
          · rintro ⟨before, t', after, b', hsplit, hrun, hnext'⟩
            cases before with
            | nil =>
                cases hsplit
                cases hrun
                rw [hnext] at hnext'
                cases hnext'
            | cons first before =>
                cases hsplit
                exact ⟨before, t', after, b', rfl, (run_cons hnext before).symm.trans hrun, hnext'⟩

end Builder

/-- Tags can be continued to a document exactly if the builder takes them. -/
theorem isViable_iff_run {ts : List Token} :
    IsViable ts ↔ ∃ b, Builder.run .empty ts = .ok b := by
  constructor
  · rintro ⟨behind, stop, root, h⟩
    obtain ⟨b, hrun, -⟩ := Builder.run_append_eq_ok_iff.1 (Element.ofTokens_eq_ok_iff.1 h)
    exact ⟨b, hrun⟩
  · rintro ⟨b, hrun⟩
    obtain ⟨behind, root, hbehind⟩ := b.exists_run_finished
    refine ⟨behind, 0, root, Element.ofTokens_eq_ok_iff.2 ?_⟩
    rw [Builder.run_append hrun, hbehind]

/-- What begins viable tags is viable. -/
theorem IsViable.shorten {ts us : List Token} (h : IsViable us) (hbegin : ts <+: us) :
    IsViable ts := by
  obtain ⟨rest, rfl⟩ := hbegin
  obtain ⟨behind, stop, root, hroot⟩ := h
  exact ⟨rest ++ behind, stop, root, by rwa [← List.append_assoc]⟩

/-! ## Faults -/

/-- A document that ends behind the tags has the fault. -/
inductive EndsEarly : List Token → NestingFault → Prop
  | missingRoot : EndsEarly [] .missingRoot
  | unclosed {ts : List Token} {o : OpenElement} {outer : List OpenElement}
      (h : Opens ts (o :: outer)) : EndsEarly ts (.unclosed o.name o.offset)

/-- The tag has the fault where it stands, behind `before`. -/
inductive GoesWrong (before : List Token) : Tag → NestingFault → Prop
  | closingBeforeRoot (name : String) (h : before = []) :
      GoesWrong before (.closing name) .closingBeforeRoot
  | contentAfterRoot (tag : Tag) {root : Element} (h : Flattens before [root]) :
      GoesWrong before tag .contentAfterRoot
  | tooDeep (name : String) (attributes : List (String × String)) (selfClosing : Bool)
      {os : List OpenElement} (h : Opens before os) (hlength : os.length = maxDepth + 1) :
      GoesWrong before (.opening name attributes selfClosing) .tooDeep
  | mismatch (name : String) {o : OpenElement} {outer : List OpenElement}
      (h : Opens before (o :: outer)) (hname : name ≠ o.name) :
      GoesWrong before (.closing name) (.mismatch name o.name)

namespace Builder

theorem HasRead.finish_eq_error {b : Builder} {ts : List Token} (h : b.HasRead ts) {stop : Nat}
    {e : LocatedNestingFault} (hfinish : b.finish stop = .error e) :
    EndsEarly ts e.fault ∧ e.offset = stop := by
  cases h with
  | empty =>
      cases hfinish
      exact ⟨.missingRoot, rfl⟩
  | building hopens =>
      cases hfinish
      exact ⟨.unclosed hopens, rfl⟩
  | finished hflat hdepth => cases hfinish

/-- A tag that does not fit is faulted at its place. -/
theorem HasRead.next_eq_error {b : Builder} {ts : List Token} (h : b.HasRead ts) {t : Token}
    {e : LocatedNestingFault} (hnext : b.next t = .error e) :
    GoesWrong ts t.tag e.fault ∧ e.offset = t.offset := by
  obtain ⟨tag, offset⟩ := t
  cases h with
  | empty =>
      cases tag with
      | closing name =>
          cases hnext
          exact ⟨.closingBeforeRoot name rfl, rfl⟩
      | opening name attributes selfClosing =>
          cases selfClosing <;> cases hnext
  | @building ts o outer hopens =>
      cases tag with
      | closing name =>
          simp only [Builder.next] at hnext
          split at hnext
          · cases hnext
          · next hname =>
            cases hnext
            exact ⟨.mismatch name hopens hname, rfl⟩
      | opening name attributes selfClosing =>
          simp only [Builder.next, «open»] at hnext
          split at hnext
          · next hlength =>
            cases hnext
            have hdeep : (o :: outer).length = maxDepth + 1 :=
              Nat.le_antisymm hopens.length_le hlength
            exact ⟨.tooDeep name attributes selfClosing hopens hdeep, rfl⟩
          · split at hnext <;> cases hnext
  | finished hflat hdepth =>
      cases hnext
      exact ⟨.contentAfterRoot tag hflat, rfl⟩

end Builder

/-- A fault of tags that a document begins with is reported at the end.  Any other is
reported at the first tag up to which no document begins with the tags. -/
theorem Element.offset_of_ofTokens_eq_error {ts : List Token} {stop : Nat}
    {e : LocatedNestingFault} (h : ofTokens ts stop = .error e) :
    (IsViable ts → e.offset = stop ∧ EndsEarly ts e.fault) ∧
      (¬ IsViable ts → ∃ before t after, ts = before ++ t :: after ∧
        (∀ shorter, shorter <+: before → IsViable shorter) ∧ ¬ IsViable (before ++ [t]) ∧
        e.offset = t.offset ∧ GoesWrong before t.tag e.fault) := by
  rw [ofTokens] at h
  cases hrun : Builder.run .empty ts with
  | ok b =>
      rw [hrun] at h
      obtain ⟨hfault, hoffset⟩ := (Builder.run_empty_eq_ok_iff.1 hrun).finish_eq_error h
      exact ⟨fun _ => ⟨hoffset, hfault⟩,
        fun hviable => absurd (isViable_iff_run.2 ⟨b, hrun⟩) hviable⟩
  | error e' =>
      rw [hrun] at h
      cases h
      refine ⟨fun hviable => ?_, fun _ => ?_⟩
      · obtain ⟨b, hb⟩ := isViable_iff_run.1 hviable
        rw [hrun] at hb
        cases hb
      · obtain ⟨before, t, after, b, rfl, hbefore, hnext⟩ := Builder.run_eq_error_iff.1 hrun
        obtain ⟨hfault, hoffset⟩ :=
          (Builder.run_empty_eq_ok_iff.1 hbefore).next_eq_error hnext
        refine ⟨before, t, after, rfl, fun shorter hshorter => ?_, fun hviable => ?_, hoffset,
          hfault⟩
        · exact (isViable_iff_run.2 ⟨b, hbefore⟩).shorten hshorter
        · obtain ⟨b', hb'⟩ := isViable_iff_run.1 hviable
          rw [Builder.run_append hbefore, Builder.run, hnext] at hb'
          cases hb'

/-- The tags of a document in which the outer of two elements is closed first. -/
def crossedTags : List Token :=
  [⟨.opening "a" [] false, 0⟩, ⟨.opening "b" [] false, 3⟩, ⟨.closing "a", 6⟩,
    ⟨.closing "b", 10⟩]

theorem Element.offset_of_ofTokens_eq_error_crossedTags :
    ofTokens crossedTags 14 = .error ⟨.mismatch "a" "b", 6⟩ ∧ ¬ IsViable crossedTags ∧
      ∃ before t after, crossedTags = before ++ t :: after ∧ IsViable before ∧
        ¬ IsViable (before ++ [t]) ∧ t.offset = 6 ∧
        GoesWrong before t.tag (.mismatch "a" "b") := by
  have herror : ofTokens crossedTags 14 = .error ⟨.mismatch "a" "b", 6⟩ := rfl
  obtain ⟨hviable, hbroken⟩ := offset_of_ofTokens_eq_error herror
  have hnot : ¬ IsViable crossedTags := fun h => absurd (hviable h).1 (by decide)
  obtain ⟨before, t, after, hsplit, hbefore, hstop, hoffset, hfault⟩ := hbroken hnot
  exact ⟨herror, hnot, before, t, after, hsplit, hbefore before List.prefix_rfl, hstop,
    hoffset.symm, hfault⟩

end ZoneGuard.Markup
