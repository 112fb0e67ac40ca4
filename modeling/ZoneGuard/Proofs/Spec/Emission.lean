import Mathlib
import ZoneGuard.Proofs.Text.Pieces
import ZoneGuard.Spec.Compile

/-!
# Checks between the lines

References are checked while the text is being written.  A text that is left behind by a
failed check is lost, so the outcome is the one of a check of all references before the
first line: the first reference that does not resolve, or all forms in their order.
-/

namespace ZoneGuard

theorem Spec.render_append (left right : List Form) :
    render (left ++ right) = render left ++ render right := by
  rw [render, List.flatMap_append, Text.unlines_append]
  rfl

namespace Graph

/-- The first of the references that the lists of the graph do not have. -/
def unresolved? (g : Graph) (refs : List Reference) : Option Reference :=
  refs.find? fun r => !g.resolves r

/-- The error of the reference, if there is one, and the value otherwise. -/
def failOn {α : Type} (r? : Option Reference) (value : α) : Except CompileError α :=
  match r? with
  | some r => .error (.unresolved r)
  | none => .ok value

/-- A value is given exactly if no reference is found at fault. -/
theorem failOn_eq_ok_iff {α : Type} {r? : Option Reference} {value result : α} :
    failOn r? value = .ok result ↔ r? = none ∧ value = result := by
  cases r? <;> simp [failOn]

theorem failOn_eq_error_iff {α : Type} {r? : Option Reference} {value : α} {e : CompileError} :
    failOn r? value = .error e ↔ ∃ r, e = .unresolved r ∧ r? = some r := by
  cases r? <;> simp [failOn, eq_comm]

variable (g : Graph)

/-- The first references are looked at first. -/
theorem unresolved?_append (refs refs' : List Reference) :
    g.unresolved? (refs ++ refs') = (g.unresolved? refs).or (g.unresolved? refs') :=
  List.find?_append

/-- Checking all references fails at the first that does not resolve. -/
theorem forM_check (refs : List Reference) :
    forM refs g.check = failOn (g.unresolved? refs) () := by
  induction refs with
  | nil => rfl
  | cons r refs ih =>
      rw [List.forM_cons, ih, check, unresolved?, unresolved?, List.find?_cons]
      cases g.resolves r <;> rfl

/-- An entity is written behind the text, or its first reference that does not resolve is
the error. -/
theorem emit_eq (text : String) (refs : List Reference) (forms : List Spec.Form) :
    g.emit text refs forms = failOn (g.unresolved? refs) (text ++ Spec.render forms) := by
  rw [emit, forM_check]
  cases g.unresolved? refs <;> rfl

/-- A run over entities writes all of them, or stops at the first reference that does not
resolve. -/
theorem foldlM_emit {α : Type} (references : α → List Reference) (forms : α → List Spec.Form)
    (entities : List α) (text : String) :
    entities.foldlM (fun text e => g.emit text (references e) (forms e)) text =
      failOn (g.unresolved? (entities.flatMap references))
        (text ++ Spec.render (entities.flatMap forms)) := by
  induction entities generalizing text with
  | nil => exact congrArg Except.ok (String.append_empty).symm
  | cons e entities ih =>
      rw [List.foldlM_cons, emit_eq, List.flatMap_cons, unresolved?_append, List.flatMap_cons,
        Spec.render_append, ← String.append_assoc]
      cases g.unresolved? (references e) with
      | some r => rfl
      | none => exact ih (text ++ Spec.render (forms e))

/-- The specification has all forms of the graph, unless some reference does not resolve. -/
theorem compile_eq : g.compile = failOn (g.unresolved? g.references) ⟨Spec.render g.forms⟩ := by
  have htext : Spec.render g.forms =
      Spec.render (commonForms ++ g.locations.flatMap Location.forms ++
          g.data.flatMap DataAsset.forms) ++
        Spec.render (g.systems.flatMap System.forms) ++
        Spec.render (g.connections.flatMap Connection.forms) ++
        Spec.render (resultForms ++ [.run g.scope]) := by
    rw [forms, entityForms, ← Spec.render_append, ← Spec.render_append, ← Spec.render_append]
    simp only [List.append_assoc]
  simp only [compile, foldlM_emit]
  rw [references, unresolved?_append, htext]
  cases g.unresolved? (g.systems.flatMap System.references) with
  | some r => rfl
  | none => cases g.unresolved? (g.connections.flatMap Connection.references) <;> rfl

end Graph

end ZoneGuard
