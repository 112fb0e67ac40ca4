import Mathlib
import ZoneGuard.Markup.Element

/-!
# Elements as sequences of tags

An element is flattened to its opening tag, the flattenings of its children and a
closing tag of its name, or to one tag if it has no children.  Tags flatten one
sequence of elements at most: the tags before a closing tag that belongs to none of
them are told apart from those behind it.  The builder makes the elements of their
tags again, unless they are nested too deeply.
-/

namespace ZoneGuard.Markup

/-- The tags are those of the elements, one after the other.  An element is placed
where its opening tag is. -/
inductive Flattens : List Token → List Element → Prop
  | nil : Flattens [] []
  | selfClosing (name : String) (attributes : List (String × String)) (offset : Nat)
      {ts : List Token} {es : List Element} (hrest : Flattens ts es) :
      Flattens (⟨.opening name attributes true, offset⟩ :: ts)
        (⟨name, attributes, [], offset⟩ :: es)
  | pair (name : String) (attributes : List (String × String)) (offset stop : Nat)
      {inner ts : List Token} {children es : List Element} (hchildren : Flattens inner children)
      (hrest : Flattens ts es) :
      Flattens (⟨.opening name attributes false, offset⟩ :: (inner ++ ⟨.closing name, stop⟩ :: ts))
        (⟨name, attributes, children, offset⟩ :: es)

namespace Flattens

variable {ts ts' : List Token} {es es' : List Element}

/-- Tags of elements follow one another. -/
theorem append (h : Flattens ts es) (h' : Flattens ts' es') :
    Flattens (ts ++ ts') (es ++ es') := by
  induction h with
  | nil => exact h'
  | selfClosing name attributes offset hrest ih => exact .selfClosing name attributes offset ih
  | pair name attributes offset stop hchildren hrest _ ih =>
      rw [List.cons_append, List.append_assoc, List.cons_append]
      exact .pair name attributes offset stop hchildren ih

/-! ## One sequence of elements -/

/-- The tags of elements end at the first closing tag that belongs to none of them, and
they are the tags of no other elements. -/
theorem eq_of_append_closing (h : Flattens ts es) (h' : Flattens ts' es') {name name' : String}
    {stop stop' : Nat} {us us' : List Token}
    (heq : ts ++ ⟨.closing name, stop⟩ :: us = ts' ++ ⟨.closing name', stop'⟩ :: us') :
    ts = ts' ∧ es = es' := by
  induction h generalizing ts' es' name name' stop stop' us us' with
  | nil =>
      cases h' with
      | nil => exact ⟨rfl, rfl⟩
      | selfClosing => simp at heq
      | pair => simp at heq
  | selfClosing tagName attributes offset hrest ih =>
      cases h' with
      | nil => simp at heq
      | selfClosing tagName' attributes' offset' hrest' =>
          simp only [List.cons_append, List.cons.injEq, Token.mk.injEq, Tag.opening.injEq,
            and_true] at heq
          obtain ⟨⟨⟨rfl, rfl⟩, rfl⟩, hbehind⟩ := heq
          obtain ⟨rfl, rfl⟩ := ih hrest' hbehind
          exact ⟨rfl, rfl⟩
      | pair => simp at heq
  | pair tagName attributes offset tagStop hchildren hrest ihchildren ihrest =>
      cases h' with
      | nil => simp at heq
      | selfClosing => simp at heq
      | pair tagName' attributes' offset' tagStop' hchildren' hrest' =>
          simp only [List.cons_append, List.append_assoc, List.cons.injEq, Token.mk.injEq,
            Tag.opening.injEq, and_true] at heq
          obtain ⟨⟨⟨rfl, rfl⟩, rfl⟩, hbehind⟩ := heq
          obtain ⟨rfl, rfl⟩ := ihchildren hchildren' hbehind
          obtain ⟨hclosing, hbehind⟩ := List.cons.inj (List.append_cancel_left hbehind)
          obtain ⟨rfl, rfl⟩ := ihrest hrest' hbehind
          rw [hclosing]
          exact ⟨rfl, rfl⟩

/-- Tags are those of one sequence of elements only. -/
theorem unique (h : Flattens ts es) (h' : Flattens ts es') : es = es' :=
  (h.eq_of_append_closing h' (rfl : ts ++ ⟨.closing "", 0⟩ :: [] = _)).2

/-- Behind the tags of one element no further tags belong to it. -/
theorem eq_nil_of_append {behind : List Token} {e e' : Element} (h : Flattens ts [e])
    (h' : Flattens (ts ++ behind) [e']) : behind = [] := by
  generalize hwhole : ts ++ behind = whole at h'
  cases h with
  | selfClosing name attributes offset hrest =>
      cases hrest
      cases h' with
      | selfClosing name' attributes' offset' hrest' =>
          cases hrest'
          exact (List.cons.inj hwhole).2
      | pair => simp at hwhole
  | pair name attributes offset stop hchildren hrest =>
      cases hrest
      cases h' with
      | selfClosing => simp at hwhole
      | pair name' attributes' offset' stop' hchildren' hrest' =>
          cases hrest'
          rw [List.cons_append, List.append_assoc, List.singleton_append] at hwhole
          have hinner := (List.cons.inj hwhole).2
          obtain ⟨rfl, -⟩ := hchildren.eq_of_append_closing hchildren' hinner
          exact (List.cons.inj (List.append_cancel_left hinner)).2

end Flattens

/-! ## Which tag belongs to which element -/

/-- What an opening tag tells about its element. -/
def Token.opened? (t : Token) : Option (String × List (String × String) × Nat) :=
  match t.tag with
  | .opening name attributes _ => some (name, attributes, t.offset)
  | .closing _ => none

/-- Whether the tag is an opening tag that needs a closing tag. -/
def Token.staysOpen (t : Token) : Bool :=
  match t.tag with
  | .opening _ _ selfClosing => !selfClosing
  | .closing _ => false

/-- The opening tags are those of the elements in document order. -/
theorem Flattens.filterMap_opened? {ts : List Token} {es : List Element} (h : Flattens ts es) :
    ts.filterMap Token.opened? =
      (Element.documentOrderOfAll es).map fun e => (e.name, e.attributes, e.offset) := by
  induction h with
  | nil => rfl
  | selfClosing name attributes offset hrest ih =>
      simpa [List.filterMap_cons, Token.opened?, Element.documentOrderOfAll,
        Element.documentOrder] using ih
  | pair name attributes offset stop hchildren hrest ihchildren ihrest =>
      simp [List.filterMap_cons, Token.opened?, Element.documentOrderOfAll,
        Element.documentOrder, ihchildren, ihrest]

/-- There is one closing tag for every opening tag that needs one. -/
theorem Flattens.countP_closing {ts : List Token} {es : List Element} (h : Flattens ts es) :
    ts.countP (·.opened?.isNone) = ts.countP Token.staysOpen := by
  induction h with
  | nil => rfl
  | selfClosing name attributes offset hrest ih =>
      simpa [Token.opened?, Token.staysOpen] using ih
  | pair name attributes offset stop hchildren hrest ihchildren ihrest =>
      simp only [Token.staysOpen, List.countP_cons, List.countP_append, ihchildren, ihrest]
      simp [Token.opened?]
      omega

/-! ## Building -/

namespace Element

mutual

/-- The number of levels of the element, its own included. -/
def height (e : Element) : Nat :=
  match e with
  | ⟨_, _, children, _⟩ => heightOfAll children + 1

def heightOfAll : List Element → Nat
  | [] => 0
  | e :: es => max e.height (heightOfAll es)

end

/-- Elements have no more levels than the highest of them. -/
theorem heightOfAll_le {es : List Element} {n : Nat} (h : ∀ e ∈ es, e.height ≤ n) :
    heightOfAll es ≤ n := by
  induction es with
  | nil => exact Nat.zero_le n
  | cons e es ih =>
      rw [heightOfAll]
      exact Nat.max_le.2 ⟨h e List.mem_cons_self,
        ih fun e' he' => h e' (List.mem_cons_of_mem _ he')⟩

theorem heightOfAll_append (es fs : List Element) :
    heightOfAll (es ++ fs) = max (heightOfAll es) (heightOfAll fs) := by
  induction es with
  | nil => exact (Nat.zero_max _).symm
  | cons e es ih => rw [List.cons_append, heightOfAll, heightOfAll, ih, Nat.max_assoc]

theorem height_childless (name : String) (attributes : List (String × String)) (offset : Nat) :
    height ⟨name, attributes, [], offset⟩ = 1 := by
  rw [height, heightOfAll]

theorem heightOfAll_singleton (e : Element) : heightOfAll [e] = e.height := Nat.max_zero _

end Element

namespace Builder

theorem run_cons {b b' : Builder} {t : Token} (h : b.next t = .ok b') (ts : List Token) :
    b.run (t :: ts) = b'.run ts := by
  rw [run, h]

theorem run_append {b b' : Builder} {ts : List Token} (h : b.run ts = .ok b')
    (us : List Token) : b.run (ts ++ us) = b'.run us := by
  induction ts generalizing b with
  | nil =>
      cases h
      rfl
  | cons t ts ih =>
      rw [run] at h
      rw [List.cons_append, run]
      cases hnext : b.next t with
      | error e => simp [hnext] at h
      | ok b₁ =>
          rw [hnext] at h
          exact ih h

theorem next_selfClosing (o : OpenElement) {outer : List OpenElement}
    (h : outer.length < maxDepth) (name : String) (attributes : List (String × String))
    (place : Nat) : next (.building o outer) ⟨.opening name attributes true, place⟩ =
      .ok (.building (o.add ⟨name, attributes, [], place⟩) outer) := by
  have hlength : ¬ maxDepth < (o :: outer).length := by
    rw [List.length_cons]
    omega
  exact (if_neg hlength).trans (if_pos rfl)

/-- An opening tag opens an element if there is room for one more level. -/
theorem next_opening (o : OpenElement) {outer : List OpenElement}
    (h : outer.length < maxDepth) (name : String) (attributes : List (String × String))
    (place : Nat) : next (.building o outer) ⟨.opening name attributes false, place⟩ =
      .ok (.building ⟨name, attributes, place, []⟩ (o :: outer)) := by
  have hlength : ¬ maxDepth < (o :: outer).length := by
    rw [List.length_cons]
    omega
  exact (if_neg hlength).trans (if_neg Bool.false_ne_true)

/-- A closing tag of the right name closes the element. -/
theorem next_closing (o : OpenElement) (outer : List OpenElement) (stop : Nat) :
    next (.building o outer) ⟨.closing o.name, stop⟩ = .ok (close o.close outer) :=
  if_pos rfl

/-- Elements that are flattened inside an open element become its children. -/
theorem run_of_flattens {ts : List Token} {es : List Element} (h : Flattens ts es)
    (o : OpenElement) (outer : List OpenElement)
    (hdepth : outer.length + Element.heightOfAll es ≤ maxDepth) :
    run (.building o outer) ts =
      .ok (.building { o with children := es.reverse ++ o.children } outer) := by
  induction h generalizing o outer with
  | nil => rfl
  | selfClosing name attributes offset hrest ih =>
      rw [Element.heightOfAll, Element.height_childless] at hdepth
      rw [run_cons (next_selfClosing o (by omega) name attributes offset),
        ih _ outer (by omega)]
      simp [OpenElement.add]
  | @pair name attributes offset stop inner ts children es hchildren hrest ihchildren ihrest =>
      rw [Element.heightOfAll, Element.height] at hdepth
      let parent : OpenElement := ⟨name, attributes, offset, children.reverse ++ []⟩
      have hinner : run (.building ⟨name, attributes, offset, []⟩ (o :: outer)) inner =
          .ok (.building parent (o :: outer)) :=
        ihchildren _ (o :: outer) (by rw [List.length_cons]; omega)
      rw [run_cons (next_opening o (by omega) name attributes offset), run_append hinner,
        run_cons (next_closing parent (o :: outer) stop), close, ihrest _ outer (by omega)]
      simp [parent, OpenElement.add, OpenElement.close]

/-- A flattened element is the root of its tags. -/
theorem run_empty_of_flattens {ts : List Token} {e : Element} (h : Flattens ts [e])
    (hdepth : e.height ≤ maxDepth + 1) : run .empty ts = .ok (.finished e) := by
  cases h with
  | selfClosing name attributes offset hrest =>
      cases hrest
      rfl
  | @pair name attributes offset stop inner ts children es hchildren hrest =>
      cases hrest
      rw [Element.height] at hdepth
      let root : OpenElement := ⟨name, attributes, offset, children.reverse ++ []⟩
      have hopen : next .empty ⟨.opening name attributes false, offset⟩ =
          .ok (.building ⟨name, attributes, offset, []⟩ []) := rfl
      have hinner : run (.building ⟨name, attributes, offset, []⟩ []) inner =
          .ok (.building root []) :=
        run_of_flattens hchildren _ [] (by rw [List.length_nil]; omega)
      rw [run_cons hopen, run_append hinner, run_cons (next_closing root [] stop), close, run]
      simp [root, OpenElement.close]

end Builder

end ZoneGuard.Markup
