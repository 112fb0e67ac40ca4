import Mathlib
import ZoneGuard.Proofs.Spec.Reading

/-!
# The forms of a specification can be read

All forms of the base, of the entities and of the result show what they belong to.  So
the signatures that the text of a graph declares are those of its forms, and what it
states of an atom is an equation of a fact.
-/

namespace ZoneGuard

open Text (IsLine isLine_append)

namespace Spec

/-! ## The base -/

def Form.fieldTexts : Form → List String
  | .signature s => s.fields.flatMap fun field => [field.1, field.2]
  | _ => []

def Form.plainTexts : Form → List String
  | .comment text => [text]
  | .signature s => s.parent.toList
  | _ => []

def Form.heads : Form → List String
  | .definition head _ => [head]
  | _ => []

def Form.bodies : Form → List String
  | .definition _ body => body
  | _ => []

/-- The form is of a kind that the base has, and declares something if it is a
signature. -/
def Form.isBasic : Form → Bool
  | .blank | .comment _ | .definition _ _ => true
  | .signature s => !s.names.isEmpty
  | .heading _ | .fact _ | .run _ => false

/-- The names of the base are identifiers, and none of them is a keyword. -/
theorem isIdentifier_of_mem_base : ∀ name ∈ base.flatMap Form.declared,
    IsIdentifier name.toList ∧ name.toList ≠ ['e', 'x', 't', 'e', 'n', 'd', 's'] := by
  apply Text.forall_of_spells fun cs =>
    IsIdentifier cs ∧ cs ≠ ['e', 'x', 't', 'e', 'n', 'd', 's']
  · repeat' constructor
  · decide +kernel

theorem isName_of_mem_base : ∀ name ∈ base.flatMap Form.declared, IsName name := by
  intro name hname
  obtain ⟨hidentifier, hne⟩ := isIdentifier_of_mem_base name hname
  refine ⟨hidentifier.isWordChar, ?_⟩
  rintro rfl
  exact hne rfl

theorem isTyping_of_mem_base : ∀ s ∈ base.flatMap Form.fieldTexts, IsTyping s := by
  apply Text.forall_of_spells fun cs => '\n' ∉ cs ∧ '=' ∉ cs
  · repeat' constructor
  · decide +kernel

theorem isLine_of_mem_plainTexts : ∀ s ∈ base.flatMap Form.plainTexts, IsLine s := by
  apply Text.forall_of_spells fun cs => '\n' ∉ cs
  · repeat' constructor
  · decide +kernel

/-- Definitions begin with a keyword of theirs. -/
theorem startsPlain_of_mem_heads : ∀ s ∈ base.flatMap Form.heads, IsLine s ∧ StartsPlain s := by
  have hkeyword : ∀ s ∈ base.flatMap Form.heads,
      '\n' ∉ s.toList ∧ (s.toList.head? = some 'f' ∨ s.toList.head? = some 'p') := by
    apply Text.forall_of_spells fun cs =>
      '\n' ∉ cs ∧ (cs.head? = some 'f' ∨ cs.head? = some 'p')
    · repeat' constructor
    · decide +kernel
  intro s hs
  obtain ⟨hline, hhead | hhead⟩ := hkeyword s hs
  · exact ⟨hline, 'f', hhead, by decide⟩
  · exact ⟨hline, 'p', hhead, by decide⟩

/-- No line of a definition begins with a letter behind the indentation. -/
theorem isLine_of_mem_bodies : ∀ s ∈ base.flatMap Form.bodies,
    IsLine s ∧ s.toList.head?.all (fun c => !c.isAlpha) = true := by
  apply Text.forall_of_spells fun cs => '\n' ∉ cs ∧ cs.head?.all (fun c => !c.isAlpha) = true
  · repeat' constructor
  · decide +kernel

theorem IsTyping.append {s t : String} (hs : IsTyping s) (ht : IsTyping t) : IsTyping (s ++ t) := by
  refine ⟨isLine_append.2 ⟨hs.1, ht.1⟩, ?_⟩
  rw [String.toList_append, List.mem_append, not_or]
  exact ⟨hs.2, ht.2⟩

theorem isTyping_ofList {cs : List Char} (h : '\n' ∉ cs ∧ '=' ∉ cs) :
    IsTyping (String.ofList cs) := by
  rwa [IsTyping, IsLine, String.toList_ofList]

theorem isTyping_field {name type : String} (hname : IsTyping name) (htype : IsTyping type) :
    IsTyping (name ++ ": " ++ type) :=
  (hname.append (isTyping_ofList (by decide))).append htype

theorem isProper_of_mem_base : ∀ form ∈ base, form.IsProper := by
  intro form hform
  have hbasic : ∀ form ∈ base, form.isBasic = true := List.all_eq_true.1 rfl
  have hof {texts : Form → List String} {s : String} (hs : s ∈ texts form) :
      s ∈ base.flatMap texts := List.mem_flatMap.2 ⟨form, hform, hs⟩
  cases form with
  | blank => exact .blank
  | comment text => exact .comment (isLine_of_mem_plainTexts text (hof List.mem_cons_self))
  | definition head body =>
      obtain ⟨hline, hkeyword⟩ := startsPlain_of_mem_heads head (hof List.mem_cons_self)
      exact .definition hline hkeyword fun line hline => isLine_of_mem_bodies line (hof hline)
  | signature s =>
      refine .signature ?_ (fun name hname => isName_of_mem_base name (hof hname)) ?_ ?_
      · rintro hnames
        have hnone := hbasic _ hform
        rw [Form.isBasic, hnames] at hnone
        cases hnone
      · exact fun parent hparent =>
          isLine_of_mem_plainTexts parent (hof (Option.mem_toList.2 hparent))
      · intro field hfield
        have htexts {t : String} (ht : t ∈ [field.1, field.2]) : IsTyping t :=
          isTyping_of_mem_base t (hof (List.mem_flatMap.2 ⟨field, hfield, ht⟩))
        exact isTyping_field (htexts List.mem_cons_self)
          (htexts (List.mem_cons_of_mem _ List.mem_cons_self))
  | heading | fact | run => exact absurd (hbasic _ hform) Bool.false_ne_true

/-! ## The result -/

theorem isTyping_key (r : Rule) : IsTyping r.key := by
  cases r <;> exact isTyping_ofList (by decide)

theorem isTyping_typeExpression (a : Arity) : IsTyping a.typeExpression := by
  cases a <;> exact isTyping_ofList (by decide)

theorem isTyping_of_engineFunction? {r : Rule} {function : String}
    (h : r.engineFunction? = some function) : IsTyping function := by
  cases r <;> cases h <;> exact isTyping_ofList (by decide)

theorem isProper_of_mem_resultForms : ∀ form ∈ resultForms, form.IsProper := by
  have hname : IsName resultSignature := ⟨List.all_eq_true.1 (by decide), by decide⟩
  simp only [resultForms, List.forall_mem_cons, List.not_mem_nil, false_implies, implies_true,
    and_true]
  refine ⟨.signature (List.cons_ne_nil _ _) (List.forall_mem_singleton.2 hname) ?_ ?_, .blank,
    .fact ?_ ?_, .blank⟩
  · rintro _ ⟨⟩
  · intro field hfield
    obtain ⟨r, -, rfl⟩ := List.mem_map.1 hfield
    exact isTyping_field (isTyping_key r)
      ((isTyping_ofList (by decide)).append (isTyping_typeExpression r.arity))
  · rintro _ ⟨⟩
    exact isLine_append.2 ⟨by decide, hname.isLine⟩
  · intro e he
    obtain ⟨r, -, he⟩ := List.mem_filterMap.1 he
    obtain ⟨function, hfunction, rfl⟩ := Option.map_eq_some_iff.1 he
    simp only [isLine_append]
    exact ⟨⟨⟨⟨hname.isLine, by decide⟩, (isTyping_key r).1⟩, by decide⟩,
      (isTyping_of_engineFunction? hfunction).1⟩

end Spec

/-! ## Entities -/

theorem isName_atomLabel (kind : EntityKind) (id : Identifier) :
    Spec.IsName (kind.atomLabel id) := by
  refine ⟨kind.isWordChar_of_mem_atomLabel id, fun heq => ?_⟩
  have hhead := congrArg (fun name : String => name.toList.head?) heq
  simp only [EntityKind.toList_atomLabel] at hhead
  cases kind <;> simp [EntityKind.atomPrefix, EntityKind.signature] at hhead

theorem isProper_of_mem_entityForms {kind : EntityKind} {id : Identifier} {inferred : Bool}
    {values : List (String × String)} (h : (Description.mk kind id inferred values).IsProper) :
    ∀ form ∈ entityForms kind id values, form.IsProper := by
  have hkind : IsLine kind.signature := by
    cases kind <;> decide
  simp only [entityForms, List.forall_mem_cons, List.not_mem_nil, false_implies, implies_true,
    and_true]
  refine ⟨.signature (List.cons_ne_nil _ _) (List.forall_mem_singleton.2 (isName_atomLabel kind id))
    ?_ (List.forall_mem_nil _), .fact ?_ ?_, .blank⟩
  · rintro _ ⟨⟩
    exact hkind
  · rintro _ ⟨⟩
  · intro e he
    obtain ⟨value, hvalue, rfl⟩ := List.mem_map.1 he
    have hfield : IsLine value.1 :=
      isLine_of_mem_fieldNames kind _ (h.fields ▸ List.mem_map_of_mem hvalue)
    simp only [isLine_append, isLine_atomLabel, hfield, h.isLine value hvalue, and_true, true_and]
    decide

namespace Graph

theorem isProper_of_mem_commonForms : ∀ form ∈ commonForms, form.IsProper := by
  simp only [commonForms, List.forall_mem_append, List.forall_mem_cons, List.not_mem_nil,
    false_implies, implies_true, and_true]
  exact ⟨⟨⟨.heading (by decide), .blank⟩, Spec.isProper_of_mem_base⟩, .blank,
    .comment (by decide), .blank⟩

theorem isProper_of_mem_entityForms (g : Graph) : ∀ form ∈ g.entityForms, form.IsProper := by
  simp only [entityForms, List.forall_mem_append, List.mem_flatMap]
  refine ⟨⟨⟨?_, ?_⟩, ?_⟩, ?_⟩
  · rintro form ⟨l, -, hform⟩
    exact ZoneGuard.isProper_of_mem_entityForms l.isProper_description form hform
  · rintro form ⟨d, -, hform⟩
    rw [DataAsset.forms, List.mem_append] at hform
    rcases hform with hform | hform
    · split at hform
      · rw [List.mem_singleton.1 hform]
        have hid : IsLine d.id.safe.text :=
          isLine_of_isWordChar fun c => d.id.safe.isWordChar_of_mem
        exact .comment (isLine_append.2 ⟨by decide, hid⟩)
      · cases hform
    · exact ZoneGuard.isProper_of_mem_entityForms d.isProper_description form hform
  · rintro form ⟨s, -, hform⟩
    exact ZoneGuard.isProper_of_mem_entityForms s.isProper_description form hform
  · rintro form ⟨c, -, hform⟩
    exact ZoneGuard.isProper_of_mem_entityForms c.isProper_description form hform

theorem isProper_of_mem_forms (g : Graph) : ∀ form ∈ g.forms, form.IsProper := by
  simp only [forms, List.forall_mem_append, List.forall_mem_singleton]
  exact ⟨⟨⟨isProper_of_mem_commonForms, g.isProper_of_mem_entityForms⟩,
    Spec.isProper_of_mem_resultForms⟩, .run g.scope⟩

/-! ## The text of a graph -/

/-- The lines of the text are those of the forms. -/
theorem lines_text_of_compile {g : Graph} {spec : Specification} (h : g.compile = .ok spec) :
    Text.lines spec.text = g.forms.flatMap Spec.Form.lines ++ [""] := by
  rw [text_of_compile h, Spec.lines_render g.isProper_of_mem_forms]

/-- The equations that are stated of entities, and those that define the result. -/
theorem equations_forms (g : Graph) : g.forms.flatMap Spec.Form.equations =
    (g.descriptions.flatMap fun d => d.values.map fun value =>
        (d.kind.atomLabel d.id ++ "." ++ value.1, value.2)) ++
      Rule.engineRules.filterMap fun r => r.engineFunction?.map fun function =>
        (resultSignature ++ "." ++ r.key, function) := by
  have hcommon : commonForms.flatMap Spec.Form.equations = [] := rfl
  have hdata (d : DataAsset) : d.forms.flatMap Spec.Form.equations =
      (ZoneGuard.entityForms .data d.id.safe d.fieldValues).flatMap Spec.Form.equations := by
    rw [DataAsset.forms, List.flatMap_append]
    split <;> rfl
  have hentity (kind : EntityKind) (id : Identifier) (values : List (String × String)) :
      (ZoneGuard.entityForms kind id values).flatMap Spec.Form.equations =
        values.map fun value => (kind.atomLabel id ++ "." ++ value.1, value.2) := by
    simp [ZoneGuard.entityForms, Spec.Form.equations]
  have hresult : resultForms.flatMap Spec.Form.equations =
      Rule.engineRules.filterMap fun r => r.engineFunction?.map fun function =>
        (resultSignature ++ "." ++ r.key, function) := by
    simp [resultForms, Spec.Form.equations]
  rw [forms, List.flatMap_append, List.flatMap_append, List.flatMap_append, hcommon, hresult]
  simp [entityForms, descriptions, List.flatMap_assoc, List.flatMap_map, hdata, hentity,
    Location.forms, System.forms, Connection.forms, Location.description, DataAsset.description,
    System.description, Connection.description, Spec.Form.equations]

end Graph

end ZoneGuard
