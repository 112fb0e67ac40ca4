import Mathlib
import ZoneGuard.Markup.Element

/-!
# Walking over a document

A document is walked over with a stack of trees.  At every step the elements visited so
far and the trees on the stack, taken in document order, are the same in all, so the walk
is the document in document order.  An element has an address there, the numbers of the
children that lead to it, and the order of addresses as lists of numbers is document order:
an element comes before the ones inside it, and what is inside a child before what is
inside the next.
-/

namespace ZoneGuard.Markup.Element

/-! ## The stack -/

theorem documentOrderOfAll_eq_flatMap (es : List Element) :
    documentOrderOfAll es = es.flatMap documentOrder := by
  induction es with
  | nil => rfl
  | cons e es ih => rw [documentOrderOfAll, ih, List.flatMap_cons]

theorem documentOrder_eq (e : Element) :
    e.documentOrder = e :: documentOrderOfAll e.children := by
  cases e
  rw [documentOrder]

/-- One step takes the top of the stack to the elements visited, and puts its children in
its place. -/
theorem reverse_append_documentOrderOfAll_step (visited : List Element) (e : Element)
    (stack : List Element) :
    (e :: visited).reverse ++ documentOrderOfAll (e.children ++ stack) =
      visited.reverse ++ documentOrderOfAll (e :: stack) := by
  simp [documentOrderOfAll_eq_flatMap, documentOrder_eq]

/-- The elements visited, and behind them the trees on the stack in document order, stay
the same until the stack is empty. -/
theorem visit_eq (visited stack : List Element) :
    visit visited stack = visited.reverse ++ documentOrderOfAll stack := by
  fun_induction visit visited stack with
  | case1 visited => exact (List.append_nil _).symm
  | case2 visited e stack ih => rw [ih, reverse_append_documentOrderOfAll_step]

/-- The walk with a stack visits elements in the order of the document. -/
theorem walk_eq_documentOrder (e : Element) : e.walk = e.documentOrder := by
  rw [walk, visit_eq, documentOrderOfAll_eq_flatMap, List.flatMap_singleton]
  rfl

/-! ## Addresses -/

/-- The element at an address, of which each number chooses one of the children. -/
def at? (e : Element) : List Nat → Option Element
  | [] => some e
  | i :: address => e.children[i]?.bind (·.at? address)

/-- The addresses are all that lead to an element, in their order.  An address comes
before the ones that it begins. -/
structure IsDocumentOrder (root : Element) (addresses : List (List Nat)) : Prop where
  mem_iff : ∀ address, address ∈ addresses ↔ (root.at? address).isSome
  ordered : addresses.Pairwise (· < ·)

mutual

/-- The addresses of an element and of the ones inside it. -/
def addresses (e : Element) : List (List Nat) :=
  match e with
  | ⟨_, _, children, _⟩ => [] :: addressesOfAll 0 children

/-- The addresses of the children from number `i` on, and of the elements inside them. -/
def addressesOfAll (i : Nat) : List Element → List (List Nat)
  | [] => []
  | e :: es => e.addresses.map (i :: ·) ++ addressesOfAll (i + 1) es

end

theorem addresses_eq (e : Element) : e.addresses = [] :: addressesOfAll 0 e.children := by
  cases e
  rw [addresses]

theorem mem_addressesOfAll {address : List Nat} {i : Nat} {es : List Element} :
    address ∈ addressesOfAll i es ↔
      ∃ j e inner, es[j]? = some e ∧ inner ∈ e.addresses ∧ address = (i + j) :: inner := by
  induction es generalizing i with
  | nil => simp [addressesOfAll]
  | cons e es ih =>
      rw [addressesOfAll, List.mem_append, List.mem_map, ih]
      constructor
      · rintro (⟨inner, hinner, rfl⟩ | ⟨j, e', inner, he', hinner, rfl⟩)
        · exact ⟨0, e, inner, rfl, hinner, rfl⟩
        · exact ⟨j + 1, e', inner, he', hinner, by rw [Nat.add_right_comm, Nat.add_assoc]⟩
      · rintro ⟨j, e', inner, he', hinner, rfl⟩
        cases j with
        | zero =>
            cases he'
            exact Or.inl ⟨inner, hinner, rfl⟩
        | succ j =>
            exact Or.inr ⟨j, e', inner, he', hinner, by rw [Nat.add_right_comm, Nat.add_assoc]⟩

/-- An address is one of an element exactly if it leads to something. -/
theorem mem_addresses_iff {address : List Nat} {e : Element} :
    address ∈ e.addresses ↔ (e.at? address).isSome := by
  induction address generalizing e with
  | nil => simp [addresses_eq, at?]
  | cons i address ih =>
      rw [addresses_eq, List.mem_cons, mem_addressesOfAll, at?]
      cases hchild : e.children[i]? with
      | none =>
          simp only [reduceCtorEq, false_or, Option.bind_none, Option.isSome_none,
            Bool.false_eq_true, iff_false]
          rintro ⟨j, child, inner, hj, -, heq⟩
          rw [Nat.zero_add] at heq
          rw [← (List.cons.inj heq).1, hchild] at hj
          cases hj
      | some child =>
          rw [Option.bind_some, ← ih]
          constructor
          · rintro (heq | ⟨j, child', inner, hj, hinner, heq⟩)
            · cases heq
            · rw [Nat.zero_add] at heq
              obtain ⟨rfl, rfl⟩ := List.cons.inj heq
              cases hchild.symm.trans hj
              exact hinner
          · intro haddress
            exact Or.inr ⟨i, child, address, hchild, haddress, by rw [Nat.zero_add]⟩

mutual

/-- Addresses follow one another in order. -/
theorem pairwise_addresses (e : Element) : e.addresses.Pairwise (· < ·) := by
  match e with
  | ⟨name, attributes, children, offset⟩ =>
    rw [addresses]
    refine List.pairwise_cons.2 ⟨fun address haddress => ?_, pairwise_addressesOfAll 0 children⟩
    obtain ⟨j, child, inner, -, -, rfl⟩ := mem_addressesOfAll.1 haddress
    exact List.nil_lt_cons _ _

theorem pairwise_addressesOfAll (i : Nat) (es : List Element) :
    (addressesOfAll i es).Pairwise (· < ·) := by
  match es with
  | [] => exact List.Pairwise.nil
  | e :: es =>
    rw [addressesOfAll, List.pairwise_append]
    refine ⟨?inside, pairwise_addressesOfAll (i + 1) es, ?across⟩
    case inside =>
      exact (pairwise_addresses e).map _ fun _ _ hlt => List.cons_lt_cons_iff.2 (Or.inr ⟨rfl, hlt⟩)
    case across =>
      intro address haddress later hlater
      obtain ⟨inner, -, rfl⟩ := List.mem_map.1 haddress
      obtain ⟨j, child, inner', -, -, rfl⟩ := mem_addressesOfAll.1 hlater
      exact List.cons_lt_cons_iff.2 (Or.inl (by omega))

end

theorem isDocumentOrder_addresses (e : Element) : e.IsDocumentOrder e.addresses :=
  ⟨fun _ => mem_addresses_iff, pairwise_addresses e⟩

mutual

theorem map_at?_addresses (e : Element) :
    e.addresses.map e.at? = e.documentOrder.map some := by
  match e with
  | ⟨name, attributes, children, offset⟩ =>
    rw [addresses, documentOrder, List.map_cons, List.map_cons, at?,
      map_at?_addressesOfAll ⟨name, attributes, children, offset⟩ 0 children rfl]

theorem map_at?_addressesOfAll (parent : Element) (i : Nat) (es : List Element)
    (h : parent.children.drop i = es) :
    (addressesOfAll i es).map parent.at? = (documentOrderOfAll es).map some := by
  match es with
  | [] => rfl
  | e :: es =>
    have hchild : parent.children[i]? = some e := by
      rw [← Nat.add_zero i, ← List.getElem?_drop, h, List.getElem?_cons_zero]
    have hinside : parent.at? ∘ (i :: ·) = e.at? := by
      funext address
      rw [Function.comp_apply, at?, hchild, Option.bind_some]
    have hrest : parent.children.drop (i + 1) = es := by
      rw [← List.drop_drop, h, List.drop_one, List.tail_cons]
    rw [addressesOfAll, documentOrderOfAll, List.map_append, List.map_append, List.map_map,
      hinside, map_at?_addresses e, map_at?_addressesOfAll parent (i + 1) es hrest]

end

/-- The walk comes to every address of the document once, in document order. -/
theorem exists_isDocumentOrder_walk (root : Element) :
    ∃ addresses, root.IsDocumentOrder addresses ∧
      root.walk.map some = addresses.map root.at? :=
  ⟨root.addresses, root.isDocumentOrder_addresses, by
    rw [walk_eq_documentOrder, map_at?_addresses]⟩

end ZoneGuard.Markup.Element
