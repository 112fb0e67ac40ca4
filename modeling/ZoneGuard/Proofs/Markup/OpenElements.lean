import Mathlib
import ZoneGuard.Proofs.Markup.Truncation

/-!
# What the builder has read

The tags read so far open some elements without closing them, and behind the opening
tag of each stand the flattenings of its children.  The builder holds just these
elements, so the tags that leave it in a given state are known.  In particular, the
tags of a document are the flattenings of its root.
-/

namespace ZoneGuard.Markup

/-- The tags open the elements, of which the innermost stands first, and close none of
them.  Each has been given the children that it has. -/
inductive Opens : List Token → List OpenElement → Prop
  | nil : Opens [] []
  | cons {ts inner : List Token} {outer : List OpenElement} (o : OpenElement)
      (houter : Opens ts outer) (hinner : Flattens inner o.children.reverse)
      (hdepth : outer.length + Element.heightOfAll o.children.reverse ≤ maxDepth) :
      Opens (ts ++ ⟨.opening o.name o.attributes false, o.offset⟩ :: inner) (o :: outer)

/-- The tags are what the builder has read. -/
inductive Builder.HasRead : Builder → List Token → Prop
  | empty : HasRead .empty []
  | building {ts : List Token} {o : OpenElement} {outer : List OpenElement}
      (h : Opens ts (o :: outer)) : HasRead (.building o outer) ts
  | finished {ts : List Token} {root : Element} (h : Flattens ts [root])
      (hdepth : root.height ≤ maxDepth + 1) : HasRead (.finished root) ts

namespace Opens

variable {ts us : List Token} {o : OpenElement} {outer : List OpenElement}

/-- No more elements are open than may be nested. -/
theorem length_le {os : List OpenElement} (h : Opens ts os) : os.length ≤ maxDepth + 1 := by
  cases h with
  | nil => exact Nat.zero_le _
  | cons o houter hinner hdepth =>
      rw [List.length_cons]
      omega

/-- One more child of the innermost element. -/
theorem add (h : Opens ts (o :: outer)) {e : Element} (he : Flattens us [e])
    (hdepth : outer.length + e.height ≤ maxDepth) : Opens (ts ++ us) (o.add e :: outer) := by
  cases h with
  | cons o houter hinner hchildren =>
      rw [List.append_assoc, List.cons_append]
      refine .cons (o.add e) houter ?_ ?_
      · rw [OpenElement.add, List.reverse_cons]
        exact hinner.append he
      · rw [OpenElement.add, List.reverse_cons, Element.heightOfAll_append,
          Element.heightOfAll_singleton]
        omega

/-- One more open element. -/
theorem «open» {os : List OpenElement} (h : Opens ts os) (hlength : os.length ≤ maxDepth)
    (name : String) (attributes : List (String × String)) (offset : Nat) :
    Opens (ts ++ [⟨.opening name attributes false, offset⟩])
      (⟨name, attributes, offset, []⟩ :: os) :=
  .cons ⟨name, attributes, offset, []⟩ h .nil hlength

/-- The innermost element is closed, and becomes a child or the root. -/
theorem close (h : Opens ts (o :: outer)) (stop : Nat) :
    (Builder.close o.close outer).HasRead (ts ++ [⟨.closing o.name, stop⟩]) := by
  cases h with
  | @cons before inner outer o houter hinner hdepth =>
      have hflat : Flattens (⟨.opening o.name o.attributes false, o.offset⟩ ::
          (inner ++ [⟨.closing o.name, stop⟩])) [o.close] :=
        .pair o.name o.attributes o.offset stop hinner .nil
      have hheight : o.close.height = Element.heightOfAll o.children.reverse + 1 := by
        rw [OpenElement.close, Element.height]
      rw [List.append_assoc, List.cons_append]
      cases outer with
      | nil =>
          cases houter
          rw [List.length_nil] at hdepth
          exact .finished hflat (by omega)
      | cons parent outer =>
          rw [List.length_cons] at hdepth
          exact .building (houter.add hflat (by omega))

end Opens

namespace Builder

variable {b b' : Builder} {ts : List Token} {t : Token}

/-- What has been read after one more tag. -/
theorem HasRead.next (h : b.HasRead ts) (hnext : b.next t = .ok b') : b'.HasRead (ts ++ [t]) := by
  obtain ⟨tag, offset⟩ := t
  have hopening {os : List OpenElement} (hopens : Opens ts os) {name : String}
      {attributes : List (String × String)}
      (hopen : «open» os name attributes false offset = .ok b') :
      b'.HasRead (ts ++ [⟨.opening name attributes false, offset⟩]) := by
    rw [«open»] at hopen
    split at hopen
    · cases hopen
    · next hlength =>
      cases hopen
      exact .building (hopens.open (Nat.not_lt.1 hlength) name attributes offset)
  cases h with
  | empty =>
      cases tag with
      | closing name => cases hnext
      | opening name attributes selfClosing =>
          cases selfClosing with
          | false => exact hopening .nil hnext
          | true =>
              cases hnext
              refine .finished (.selfClosing name attributes offset .nil) ?_
              rw [Element.height_childless]
              decide
  | @building ts o outer hopens =>
      cases tag with
      | closing name =>
          simp only [Builder.next] at hnext
          split at hnext
          · next hname =>
            cases hnext
            rw [hname]
            exact hopens.close offset
          · cases hnext
      | opening name attributes selfClosing =>
          cases selfClosing with
          | false => exact hopening hopens hnext
          | true =>
              simp only [Builder.next, «open», List.length_cons] at hnext
              split at hnext
              · cases hnext
              · next hlength =>
                cases hnext
                refine .building (hopens.add (.selfClosing name attributes offset .nil) ?_)
                rw [Element.height_childless]
                omega
  | finished hflat hdepth => cases hnext

/-- What the builder has read grows by the tags that it is given. -/
theorem HasRead.run (h : b.HasRead ts) {us : List Token} (hrun : b.run us = .ok b') :
    b'.HasRead (ts ++ us) := by
  induction us generalizing b ts with
  | nil =>
      cases hrun
      rwa [List.append_nil]
  | cons u us ih =>
      obtain ⟨between, hnext, hrest⟩ := run_cons_eq_ok_iff.1 hrun
      simpa using ih (h.next hnext) hrest

/-- Tags that open elements are read as these open elements. -/
theorem run_empty_of_opens {o : OpenElement} {outer : List OpenElement}
    (h : Opens ts (o :: outer)) : Builder.run .empty ts = .ok (.building o outer) := by
  induction outer generalizing ts o with
  | nil =>
      cases h with
      | @cons before inner outer o houter hinner hdepth =>
          cases houter
          have hopen : Builder.next .empty ⟨.opening o.name o.attributes false, o.offset⟩ =
              .ok (.building ⟨o.name, o.attributes, o.offset, []⟩ []) := rfl
          rw [List.nil_append, run_cons hopen, run_of_flattens hinner _ [] hdepth,
            List.append_nil, List.reverse_reverse]
  | cons parent outer ih =>
      cases h with
      | @cons before inner outer o houter hinner hdepth =>
          rw [List.length_cons] at hdepth
          have hlength : outer.length < maxDepth := by omega
          have hopen := next_opening parent hlength o.name o.attributes o.offset
          rw [run_append (ih houter), run_cons hopen,
            run_of_flattens hinner _ (parent :: outer) hdepth, List.append_nil,
            List.reverse_reverse]

/-- The builder is in a state exactly if it has read tags that lead there. -/
theorem run_empty_eq_ok_iff : Builder.run .empty ts = .ok b ↔ b.HasRead ts := by
  constructor
  · intro hrun
    simpa using HasRead.empty.run hrun
  · intro h
    cases h with
    | empty => rfl
    | building hopens => exact run_empty_of_opens hopens
    | finished hflat hdepth => exact run_empty_of_flattens hflat hdepth

end Builder

/-! ## Documents -/

/-- Tags are a document exactly if they flatten a root of limited height. -/
theorem Element.ofTokens_eq_ok_iff_height {ts : List Token} {stop : Nat} {root : Element} :
    ofTokens ts stop = .ok root ↔ Flattens ts [root] ∧ root.height ≤ maxDepth + 1 := by
  rw [ofTokens_eq_ok_iff, Builder.run_empty_eq_ok_iff]
  constructor
  · intro h
    cases h with
    | finished hflat hdepth => exact ⟨hflat, hdepth⟩
  · rintro ⟨hflat, hdepth⟩
    exact .finished hflat hdepth

/-- The tags of a document are exactly the flattenings of its root, which is at most
256 levels deep below its own.  They are the tags of no other element, each opening tag
is that of one element, each closing tag belongs to one of them, and nothing follows. -/
theorem Element.ofTokens_eq_ok_iff_flattens (ts : List Token) (stop : Nat) :
    (∀ root, ofTokens ts stop = .ok root ↔ Flattens ts [root] ∧ root.height ≤ maxDepth + 1) ∧
      ∀ root, Flattens ts [root] →
        (∀ other, Flattens ts [other] → other = root) ∧
          ts.filterMap Token.opened? =
            root.documentOrder.map (fun e => (e.name, e.attributes, e.offset)) ∧
          ts.countP (·.opened?.isNone) = ts.countP Token.staysOpen ∧
          ∀ behind other, behind ≠ [] → ¬ Flattens (ts ++ behind) [other] := by
  refine ⟨fun root => ofTokens_eq_ok_iff_height, fun root hroot => ⟨fun other hother => ?_, ?_,
    hroot.countP_closing, fun behind other hne hother => hne (hroot.eq_nil_of_append hother)⟩⟩
  · exact List.singleton_inj.1 (hother.unique hroot)
  · simpa [documentOrderOfAll] using hroot.filterMap_opened?

/-- The tags of an element with two children, of which one has a closing tag. -/
def nestedTags : List Token :=
  [⟨.opening "a" [] false, 0⟩, ⟨.opening "b" [("x", "1")] true, 3⟩, ⟨.opening "c" [] false, 13⟩,
    ⟨.closing "c", 16⟩, ⟨.closing "a", 20⟩]

def nestedRoot : Element :=
  ⟨"a", [], [⟨"b", [("x", "1")], [], 3⟩, ⟨"c", [], [], 13⟩], 0⟩

theorem Element.ofTokens_eq_ok_iff_flattens_nestedTags :
    ofTokens nestedTags 24 = .ok nestedRoot ∧ Flattens nestedTags [nestedRoot] ∧
      nestedRoot.height ≤ maxDepth + 1 ∧
      (∀ other, Flattens nestedTags [other] → other = nestedRoot) ∧
      nestedTags.countP (·.opened?.isNone) = 2 ∧
      ∀ behind other, behind ≠ [] → ¬ Flattens (nestedTags ++ behind) [other] := by
  obtain ⟨hread, htags⟩ := ofTokens_eq_ok_iff_flattens nestedTags 24
  have hroot : ofTokens nestedTags 24 = .ok nestedRoot := rfl
  obtain ⟨hflat, hheight⟩ := (hread nestedRoot).1 hroot
  obtain ⟨hsame, -, hclosing, hend⟩ := htags nestedRoot hflat
  exact ⟨hroot, hflat, hheight, hsame, hclosing, hend⟩

end ZoneGuard.Markup
