import Mathlib
import ZoneGuard.Proofs.Markup.Flattening
import ZoneGuard.Proofs.Markup.Walk
import ZoneGuard.Proofs.Markup.Written

/-!
# Elements that are spelled out

An element is spelled by its opening tag, its children and its closing tag, or
by one tag if it has no children.  The builder turns such tags back into the
element; what it adds are the places of the tags, so the element is the same
once places are left out.
-/

namespace ZoneGuard.Markup

inductive Spells : List Tag → List Element → Prop
  | nil : Spells [] []
  | selfClosing (name : String) (attributes : List (String × String)) (offset : Nat)
      {tags : List Tag} {es : List Element} (hrest : Spells tags es) :
      Spells (.opening name attributes true :: tags) (⟨name, attributes, [], offset⟩ :: es)
  | pair (name : String) (attributes : List (String × String)) (offset : Nat)
      {inner tags : List Tag} {children es : List Element} (hchildren : Spells inner children)
      (hrest : Spells tags es) :
      Spells (.opening name attributes false :: (inner ++ .closing name :: tags))
        (⟨name, attributes, children, offset⟩ :: es)

theorem Spells.append {left right : List Tag} {es fs : List Element} (h : Spells left es)
    (h' : Spells right fs) : Spells (left ++ right) (es ++ fs) := by
  induction h with
  | nil => exact h'
  | selfClosing name attributes offset hrest ih =>
      exact .selfClosing name attributes offset ih
  | pair name attributes offset hchildren hrest _ ih =>
      rw [List.cons_append, List.append_assoc, List.cons_append]
      exact .pair name attributes offset hchildren ih

namespace Element

mutual

/-- The element without the places of its tags. -/
def unplaced (e : Element) : Element :=
  match e with
  | ⟨name, attributes, children, _⟩ => ⟨name, attributes, unplacedAll children, 0⟩

/-- The elements without the places of their tags. -/
def unplacedAll : List Element → List Element
  | [] => []
  | e :: es => e.unplaced :: unplacedAll es

end

theorem unplacedAll_eq_map (es : List Element) : unplacedAll es = es.map unplaced := by
  induction es with
  | nil => rfl
  | cons e es ih => rw [unplacedAll, ih, List.map_cons]

theorem unplaced_name (e : Element) : e.unplaced.name = e.name := by
  cases e
  rw [unplaced]

theorem unplaced_attributes (e : Element) : e.unplaced.attributes = e.attributes := by
  cases e
  rw [unplaced]

theorem unplaced_children (e : Element) : e.unplaced.children = e.children.map unplaced := by
  cases e
  rw [unplaced, unplacedAll_eq_map]

mutual

/-- Without places, elements follow one another as before. -/
theorem documentOrder_unplaced (e : Element) :
    e.unplaced.documentOrder = e.documentOrder.map unplaced := by
  match e with
  | ⟨name, attributes, children, offset⟩ =>
    rw [unplaced, documentOrder, documentOrder, List.map_cons, unplaced,
      documentOrderOfAll_unplacedAll children]

theorem documentOrderOfAll_unplacedAll (es : List Element) :
    documentOrderOfAll (unplacedAll es) = (documentOrderOfAll es).map unplaced := by
  match es with
  | [] => rfl
  | e :: es =>
    rw [unplacedAll, documentOrderOfAll, documentOrderOfAll, List.map_append,
      documentOrder_unplaced e, documentOrderOfAll_unplacedAll es]

end

mutual

theorem height_unplaced (e : Element) : e.unplaced.height = e.height := by
  match e with
  | ⟨name, attributes, children, offset⟩ =>
    rw [unplaced, height, height, heightOfAll_unplacedAll children]

theorem heightOfAll_unplacedAll (es : List Element) :
    heightOfAll (unplacedAll es) = heightOfAll es := by
  match es with
  | [] => rfl
  | e :: es =>
    rw [unplacedAll, heightOfAll, heightOfAll, height_unplaced e, heightOfAll_unplacedAll es]

end

end Element

/-- Tags that spell elements are those of the same elements, placed where the tags are. -/
theorem Spells.exists_flattens {tags : List Tag} {es : List Element} (h : Spells tags es)
    {ts : List Token} (htags : ts.map (·.tag) = tags) :
    ∃ es', Element.unplacedAll es' = Element.unplacedAll es ∧ Flattens ts es' := by
  induction h generalizing ts with
  | nil => exact ⟨[], rfl, List.map_eq_nil_iff.1 htags ▸ .nil⟩
  | selfClosing name attributes offset hrest ih =>
      obtain ⟨⟨tag, place⟩, ts', rfl, rfl, htags'⟩ := List.map_eq_cons_iff.1 htags
      obtain ⟨es', hes, hflat⟩ := ih htags'
      refine ⟨⟨name, attributes, [], place⟩ :: es', ?_, .selfClosing name attributes place hflat⟩
      simp [Element.unplacedAll, Element.unplaced, hes]
  | pair name attributes offset hchildren hrest ihchildren ihrest =>
      obtain ⟨⟨tag, place⟩, ts', rfl, rfl, htags'⟩ := List.map_eq_cons_iff.1 htags
      obtain ⟨inner, behind, rfl, hinner, hbehind⟩ := List.map_eq_append_iff.1 htags'
      obtain ⟨⟨tag, stop⟩, ts'', rfl, rfl, htags''⟩ := List.map_eq_cons_iff.1 hbehind
      obtain ⟨children', hsame, hinnerFlat⟩ := ihchildren hinner
      obtain ⟨es', hes, hflat⟩ := ihrest htags''
      refine ⟨⟨name, attributes, children', place⟩ :: es', ?_,
        .pair name attributes place stop hinnerFlat hflat⟩
      simp [Element.unplacedAll, Element.unplaced, hsame, hes]

/-- The root of a document that spells one element. -/
theorem Builder.run_empty_of_spells {tags : List Tag} {e : Element} (h : Spells tags [e])
    {ts : List Token} (htags : ts.map (·.tag) = tags) (hdepth : e.height ≤ maxDepth + 1) :
    ∃ e', e'.unplaced = e.unplaced ∧ run .empty ts = .ok (.finished e') := by
  obtain ⟨es', hes, hflat⟩ := h.exists_flattens htags
  rw [Element.unplacedAll_eq_map, Element.unplacedAll_eq_map, List.map_singleton,
    List.map_eq_singleton_iff] at hes
  obtain ⟨e', rfl, hsame⟩ := hes
  have hheight : e'.height = e.height := by
    rw [← e'.height_unplaced, hsame, e.height_unplaced]
  exact ⟨e', hsame, run_empty_of_flattens hflat (hheight.trans_le hdepth)⟩

/-! ## Texts -/

/-- The names and attributes of the element and of those inside it can be
written down. -/
def Element.IsPlain (e : Element) : Prop :=
  ∀ inner ∈ e.documentOrder, (Tag.opening inner.name inner.attributes false).IsPlain

theorem Element.IsPlain.of_children {name : String} {attributes : List (String × String)}
    {children : List Element} {offset : Nat}
    (htag : (Tag.opening name attributes false).IsPlain)
    (hchildren : ∀ child ∈ children, child.IsPlain) :
    Element.IsPlain ⟨name, attributes, children, offset⟩ := by
  intro inner hinner
  rw [Element.documentOrder, Element.documentOrderOfAll_eq_flatMap] at hinner
  rcases List.mem_cons.1 hinner with rfl | hinner
  · exact htag
  · obtain ⟨child, hchild, hinner⟩ := List.mem_flatMap.1 hinner
    exact hchildren child hchild inner hinner

/-- The text is the element written down, with any text around its tags that
opens no tag. -/
def Element.IsWritten (e : Element) (text : String) : Prop :=
  ∃ pieces behind, text = String.ofList (writePieces pieces behind) ∧
    (∀ piece ∈ pieces, '<' ∉ piece.1) ∧ '<' ∉ behind ∧ Spells (pieces.map (·.2)) [e]

mutual

/-- The tags of the element, none of them self-closing. -/
def Element.tags (e : Element) : List Tag :=
  match e with
  | ⟨name, attributes, children, _⟩ =>
    .opening name attributes false :: (Element.tagsOfAll children ++ [.closing name])

/-- The tags of the elements, none of them self-closing. -/
def Element.tagsOfAll : List Element → List Tag
  | [] => []
  | e :: es => e.tags ++ Element.tagsOfAll es

end

mutual

theorem Element.spells_tags (e : Element) : Spells e.tags [e] := by
  match e with
  | ⟨name, attributes, children, offset⟩ =>
    rw [tags]
    exact .pair name attributes offset (spells_tagsOfAll children) .nil

theorem Element.spells_tagsOfAll (es : List Element) : Spells (tagsOfAll es) es := by
  match es with
  | [] => exact .nil
  | e :: es =>
    rw [tagsOfAll]
    exact (spells_tags e).append (spells_tagsOfAll es)

end

/-- The element written down without any text around its tags. -/
def Element.write (e : Element) : String := String.ofList (e.tags.flatMap Tag.write)

theorem Element.isWritten_write (e : Element) : e.IsWritten e.write := by
  refine ⟨e.tags.map fun tag => ([], tag), [], ?_, ?_, List.not_mem_nil, ?_⟩
  · simp [write, writePieces, List.flatMap_map]
  · intro piece hpiece
    obtain ⟨tag, -, rfl⟩ := List.mem_map.1 hpiece
    exact List.not_mem_nil
  · rw [List.map_map]
    exact (List.map_id' e.tags).symm ▸ e.spells_tags

theorem Spells.isPlain {tags : List Tag} {es : List Element} (h : Spells tags es)
    (hplain : ∀ e ∈ Element.documentOrderOfAll es,
      (Tag.opening e.name e.attributes false).IsPlain) : ∀ tag ∈ tags, tag.IsPlain := by
  induction h with
  | nil => simp
  | selfClosing name attributes offset hrest ih =>
      simp only [Element.documentOrderOfAll, Element.documentOrder, List.cons_append,
        List.forall_mem_cons, List.nil_append] at hplain
      exact List.forall_mem_cons.2 ⟨hplain.1, ih hplain.2⟩
  | pair name attributes offset hchildren hrest ihchildren ihrest =>
      simp only [Element.documentOrderOfAll, Element.documentOrder, List.cons_append,
        List.forall_mem_cons, List.forall_mem_append] at hplain
      obtain ⟨hopening, hinner, hbehind⟩ := hplain
      exact List.forall_mem_cons.2 ⟨hopening, List.forall_mem_append.2
        ⟨ihchildren hinner, List.forall_mem_cons.2 ⟨hopening.1, ihrest hbehind⟩⟩⟩

/-- A text that is an element written down is read as that element. -/
theorem Element.ofText_of_isWritten {e : Element} {text : String} (h : e.IsWritten text)
    (hplain : e.IsPlain) (hdepth : e.height ≤ maxDepth + 1) :
    ∃ e', Element.ofText text = .ok e' ∧ e'.unplaced = e.unplaced := by
  obtain ⟨pieces, behind, rfl, htext, hbehind, hspells⟩ := h
  have hpieces : ArePieces pieces behind := by
    refine ⟨htext, fun piece hpiece => ?_, hbehind⟩
    refine hspells.isPlain ?_ piece.2 (List.mem_map_of_mem hpiece)
    simpa [Element.documentOrderOfAll, Element.IsPlain] using hplain
  obtain ⟨ts, htokens, htags⟩ := tokens_writePieces hpieces
  obtain ⟨e', hsame, hrun⟩ := Builder.run_empty_of_spells hspells htags hdepth
  refine ⟨e', ?_, hsame⟩
  simp [Element.ofText, String.toList_ofList, htokens, Element.ofTokens, hrun, Builder.finish]

end ZoneGuard.Markup
