import Mathlib
import ZoneGuard.Proofs.Spec.Forms
import ZoneGuard.Proofs.Spec.Resolution

/-!
# Specifications are closed

A specification declares every atom that it binds a reference to.  The values of the
fields that refer to entities are read word by word: they name the targets of the
references of one entity, these are in the lists of the graph, and each entity of the
lists is declared.
-/

namespace ZoneGuard

/-! ## Atoms in the text -/

def referenceFields : List (String × EntityKind) :=
  [("loc", .location), ("stores", .data), ("from", .system), ("to", .system), ("carries", .data)]

def Spec.bindingLine (owner field value : String) : String :=
  indent (owner ++ "." ++ field ++ " = " ++ value)

def Spec.atomLine (atom parent : String) : String :=
  "one sig " ++ atom ++ " extends " ++ parent ++ " \x7b\x7d"

theorem IsIdentifier.exists_head?_eq_some {cs : List Char} (h : IsIdentifier cs) :
    ∃ c, cs.head? = some c ∧ c.isAlpha = true := by
  cases cs with
  | nil => exact absurd h id
  | cons c cs => exact ⟨c, rfl, h.1⟩

/-- Where the text binds a field that refers to entities, every atom that it names is
declared in the text as one of the right kind. -/
def Specification.IsClosed (s : Specification) : Prop :=
  ∀ field ∈ referenceFields, ∀ owner value : String, IsIdentifier owner.toList →
    Spec.bindingLine owner field.1 value ∈ Text.lines s.text →
      ∀ word ∈ Text.words value,
        word = "none" ∨ word = "+" ∨ Spec.atomLine word field.2.signature ∈ Text.lines s.text

/-- The text binds the field of the reference to a value in which its target is named. -/
def Specification.Binds (s : Specification) (r : Reference) : Prop :=
  ∃ value : String,
    Spec.bindingLine (r.ownerKind.atomLabel r.owner) r.field value ∈ Text.lines s.text ∧
      r.targetKind.atomLabel r.target ∈ Text.words value

theorem space_notMem_of_mem_referenceFields :
    ∀ field ∈ referenceFields, ' ' ∉ field.1.toList := by decide

/-- A line that binds a field shows its owner, the field and the value. -/
theorem Spec.binding_inj {owner owner' field field' value value' : String}
    (howner : '.' ∉ owner.toList) (howner' : '.' ∉ owner'.toList) (hfield : ' ' ∉ field.toList)
    (hfield' : ' ' ∉ field'.toList)
    (heq : owner ++ "." ++ field ++ " = " ++ value = owner' ++ "." ++ field' ++ " = " ++ value') :
    owner = owner' ∧ field = field' ∧ value = value' := by
  have hchars := congrArg String.toList heq
  have hdot : ".".toList = ['.'] := rfl
  have hequals : " = ".toList = ' ' :: "= ".toList := rfl
  simp only [String.toList_append, List.append_assoc, hdot, hequals, List.cons_append] at hchars
  obtain ⟨hleft, hrest⟩ := (Text.append_cons_eq_iff howner howner').1 hchars
  obtain ⟨hmiddle, hright⟩ := (Text.append_cons_eq_iff hfield hfield').1 hrest
  exact ⟨String.toList_injective hleft, String.toList_injective hmiddle,
    String.toList_injective (List.append_cancel_left hright)⟩

theorem space_notMem_of_mem_fieldNames (kind : EntityKind) :
    ∀ field ∈ kind.fieldNames, ' ' ∉ field.toList := by
  cases kind <;> decide +kernel

theorem space_notMem_key (r : Rule) : ' ' ∉ r.key.toList := by
  cases r <;> decide +kernel

/-- No relation of the result is a field of references. -/
theorem key_ne_of_mem_referenceFields (r : Rule) :
    ∀ field ∈ referenceFields, field.1 ≠ r.key := by
  cases r <;> decide +kernel

theorem space_notMem_atomLabel (kind : EntityKind) (id : Identifier) :
    ' ' ∉ (kind.atomLabel id).toList :=
  notMem_of_isWordChar (kind.isWordChar_of_mem_atomLabel id) (by decide)

/-- The words of a set are its atoms, with signs between them. -/
theorem words_setExpression (kind : EntityKind) {ids : List Identifier} (h : ids ≠ []) :
    Text.words (setExpression kind ids) = (ids.eraseDups.map kind.atomLabel).intersperse "+" := by
  rw [setExpression_of_ne_nil h]
  refine Text.words_intercalate_plus (by simpa [eraseDups_eq_nil_iff] using h) fun word hword => ?_
  obtain ⟨id, -, rfl⟩ := List.mem_map.1 hword
  exact space_notMem_atomLabel kind id

/-- The words of a set are its atoms and signs, or say that there are none. -/
theorem mem_words_setExpression {kind : EntityKind} {ids : List Identifier} {word : String}
    (h : word ∈ Text.words (setExpression kind ids)) :
    word = "none" ∨ word = "+" ∨ ∃ id ∈ ids, word = kind.atomLabel id := by
  by_cases hne : ids = []
  · have hnone : Text.words (setExpression kind []) = ["none"] :=
      Text.words_of_notMem (show ' ' ∉ "none".toList by decide)
    rw [hne, hnone] at h
    exact Or.inl (List.mem_singleton.1 h)
  · rw [words_setExpression kind hne] at h
    refine Or.inr ((Text.mem_of_mem_intersperse h).imp_right fun hmem => ?_)
    obtain ⟨id, hid, rfl⟩ := List.mem_map.1 hmem
    exact ⟨id, List.mem_eraseDups.1 hid, rfl⟩

theorem atomLabel_mem_words_setExpression (kind : EntityKind) {ids : List Identifier}
    {id : Identifier} (h : id ∈ ids) :
    kind.atomLabel id ∈ Text.words (setExpression kind ids) := by
  rw [words_setExpression kind (List.ne_nil_of_mem h)]
  exact Text.subset_intersperse _ _ (List.mem_map_of_mem (List.mem_eraseDups.2 h))

/-! ## Values of references -/

/-- The values of the fields that refer to entities. -/
def referenceValues (values : List (String × String)) : List (String × String) :=
  values.filter fun value => referenceFields.any (·.1 == value.1)

theorem mem_referenceValues {values : List (String × String)} {value : String × String}
    (hvalue : value ∈ values) {kind : EntityKind} (hkind : (value.1, kind) ∈ referenceFields) :
    value ∈ referenceValues values :=
  List.mem_filter.2 ⟨hvalue, List.any_eq_true.2 ⟨_, hkind, beq_self_eq_true _⟩⟩

theorem System.referenceValues_fieldValues (s : System) : referenceValues s.fieldValues =
    [("loc", EntityKind.location.atomLabel s.location), ("stores", setExpression .data s.stores)] :=
  rfl

theorem Connection.referenceValues_fieldValues (c : Connection) : referenceValues c.fieldValues =
    [("from", EntityKind.system.atomLabel c.source), ("to", EntityKind.system.atomLabel c.target),
     ("carries", setExpression .data c.carries)] :=
  rfl

/-- The references are those of one entity, and its values name their targets and nothing
else, each in the field of its reference. -/
structure NamesTargets (ownerKind : EntityKind) (owner : Identifier)
    (values : List (String × String)) (refs : List Reference) : Prop where
  isOwned : ∀ r ∈ refs, r.ownerKind = ownerKind ∧ r.owner = owner
  isTarget : ∀ value ∈ values, ∀ kind, (value.1, kind) ∈ referenceFields →
    ∀ word ∈ Text.words value.2, word = "none" ∨ word = "+" ∨
      ∃ r ∈ refs, r.targetKind = kind ∧ word = kind.atomLabel r.target
  isNamed : ∀ r ∈ refs, ∃ value ∈ values, value.1 = r.field ∧
    r.targetKind.atomLabel r.target ∈ Text.words value.2

namespace NamesTargets

variable {ownerKind : EntityKind} {owner : Identifier} {values values' : List (String × String)}
  {refs refs' : List Reference}

theorem nil : NamesTargets ownerKind owner [] [] where
  isOwned := nofun
  isTarget := nofun
  isNamed := nofun

theorem append (h : NamesTargets ownerKind owner values refs)
    (h' : NamesTargets ownerKind owner values' refs') :
    NamesTargets ownerKind owner (values ++ values') (refs ++ refs') where
  isOwned := List.forall_mem_append.2 ⟨h.isOwned, h'.isOwned⟩
  isTarget := by
    intro value hvalue kind hkind word hword
    rcases List.mem_append.1 hvalue with hvalue | hvalue
    · refine (h.isTarget value hvalue kind hkind word hword).imp_right (Or.imp_right ?_)
      rintro ⟨r, hr, htarget⟩
      exact ⟨r, List.mem_append_left _ hr, htarget⟩
    · refine (h'.isTarget value hvalue kind hkind word hword).imp_right (Or.imp_right ?_)
      rintro ⟨r, hr, htarget⟩
      exact ⟨r, List.mem_append_right _ hr, htarget⟩
  isNamed := by
    intro r hr
    rcases List.mem_append.1 hr with hr | hr
    · obtain ⟨value, hvalue, hnamed⟩ := h.isNamed r hr
      exact ⟨value, List.mem_append_left _ hvalue, hnamed⟩
    · obtain ⟨value, hvalue, hnamed⟩ := h'.isNamed r hr
      exact ⟨value, List.mem_append_right _ hvalue, hnamed⟩

/-- The values of other fields do not count. -/
theorem of_referenceValues (h : NamesTargets ownerKind owner (referenceValues values) refs) :
    NamesTargets ownerKind owner values refs where
  isOwned := h.isOwned
  isTarget := fun value hvalue kind hkind =>
    h.isTarget value (mem_referenceValues hvalue hkind) kind hkind
  isNamed := fun r hr =>
    have ⟨value, hvalue, hnamed⟩ := h.isNamed r hr
    ⟨value, List.mem_of_mem_filter hvalue, hnamed⟩

section OneField

variable {field : String} {kind : EntityKind}
  (hfield : ∀ k, (field, k) ∈ referenceFields → k = kind)

include hfield

theorem atom (id : Identifier) :
    NamesTargets ownerKind owner [(field, kind.atomLabel id)]
      [⟨ownerKind, owner, field, kind, id⟩] where
  isOwned := List.forall_mem_singleton.2 ⟨rfl, rfl⟩
  isTarget := by
    intro value hvalue k hk word hword
    obtain rfl := List.mem_singleton.1 hvalue
    obtain rfl := hfield k hk
    rw [Text.words_of_notMem (space_notMem_atomLabel k id), List.mem_singleton] at hword
    exact Or.inr (Or.inr ⟨_, List.mem_cons_self, rfl, hword⟩)
  isNamed := by
    intro r hr
    obtain rfl := List.mem_singleton.1 hr
    refine ⟨_, List.mem_cons_self, rfl, ?_⟩
    rw [Text.words_of_notMem (space_notMem_atomLabel kind id)]
    exact List.mem_cons_self

theorem set (ids : List Identifier) :
    NamesTargets ownerKind owner [(field, setExpression kind ids)]
      (ids.map fun id => ⟨ownerKind, owner, field, kind, id⟩) where
  isOwned := List.forall_mem_map.2 fun _ _ => ⟨rfl, rfl⟩
  isTarget := by
    intro value hvalue k hk word hword
    obtain rfl := List.mem_singleton.1 hvalue
    obtain rfl := hfield k hk
    refine (mem_words_setExpression hword).imp_right (Or.imp_right ?_)
    rintro ⟨id, hid, rfl⟩
    exact ⟨_, List.mem_map_of_mem hid, rfl, rfl⟩
  isNamed := by
    intro r hr
    obtain ⟨id, hid, rfl⟩ := List.mem_map.1 hr
    exact ⟨_, List.mem_cons_self, rfl, atomLabel_mem_words_setExpression kind hid⟩

end OneField

end NamesTargets

theorem System.namesTargets (s : System) :
    NamesTargets .system s.id.safe s.fieldValues s.references := by
  refine .of_referenceValues ?_
  rw [s.referenceValues_fieldValues]
  exact (NamesTargets.atom (by simp [referenceFields]) s.location).append
    (NamesTargets.set (by simp [referenceFields]) s.stores)

theorem Connection.namesTargets (c : Connection) :
    NamesTargets .connection c.id.safe c.fieldValues c.references := by
  refine .of_referenceValues ?_
  rw [c.referenceValues_fieldValues]
  exact (NamesTargets.atom (by simp [referenceFields]) c.source).append
    ((NamesTargets.atom (by simp [referenceFields]) c.target).append
      (NamesTargets.set (by simp [referenceFields]) c.carries))

/-! ## Texts of graphs -/

namespace Graph

variable {g : Graph}

/-- The values of an entity name the targets of references of the graph. -/
theorem exists_references_of_mem_descriptions {d : Description} (hd : d ∈ g.descriptions) :
    ∃ refs ⊆ g.references, NamesTargets d.kind d.id d.values refs := by
  simp only [descriptions, List.mem_append, List.mem_map] at hd
  rcases hd with ((⟨l, -, rfl⟩ | ⟨a, -, rfl⟩) | ⟨s, hs, rfl⟩) | ⟨c, hc, rfl⟩
  · exact ⟨[], List.nil_subset _, .of_referenceValues .nil⟩
  · exact ⟨[], List.nil_subset _, .of_referenceValues .nil⟩
  · exact ⟨_, fun r => mem_references_of_system hs, s.namesTargets⟩
  · exact ⟨_, fun r => mem_references_of_connection hc, c.namesTargets⟩

/-- Every reference is one of the references of a described entity. -/
theorem exists_description_of_mem_references {r : Reference} (h : r ∈ g.references) :
    ∃ d ∈ g.descriptions, ∃ refs, r ∈ refs ∧ NamesTargets d.kind d.id d.values refs := by
  rcases List.mem_append.1 h with h | h
  · obtain ⟨s, hs, hr⟩ := List.mem_flatMap.1 h
    have hmem : s.description ∈ g.descriptions := by
      simp only [descriptions, List.mem_append]
      exact Or.inl (Or.inr (List.mem_map_of_mem hs))
    exact ⟨_, hmem, _, hr, s.namesTargets⟩
  · obtain ⟨c, hc, hr⟩ := List.mem_flatMap.1 h
    have hmem : c.description ∈ g.descriptions := by
      simp only [descriptions, List.mem_append]
      exact Or.inr (List.mem_map_of_mem hc)
    exact ⟨_, hmem, _, hr, c.namesTargets⟩

/-- Each entity of a graph is described. -/
theorem exists_description_of_mem_identifiers {kind : EntityKind} {id : Identifier}
    (h : id ∈ g.identifiers kind) : ∃ d ∈ g.descriptions, d.kind = kind ∧ d.id = id := by
  have hfilter {d : Description} (hd : d ∈ g.descriptions.filter (·.kind = kind)) :
      d ∈ g.descriptions := List.mem_of_mem_filter hd
  simp only [filter_kind_descriptions] at hfilter
  cases kind with
  | location =>
      obtain ⟨l, hl, rfl⟩ := List.mem_map.1 h
      exact ⟨_, hfilter (List.mem_map_of_mem hl), rfl, rfl⟩
  | data =>
      obtain ⟨d, hd, rfl⟩ := List.mem_map.1 h
      exact ⟨_, hfilter (List.mem_map_of_mem hd), rfl, rfl⟩
  | system =>
      obtain ⟨s, hs, rfl⟩ := List.mem_map.1 h
      exact ⟨_, hfilter (List.mem_map_of_mem hs), rfl, rfl⟩
  | connection =>
      obtain ⟨c, hc, rfl⟩ := List.mem_map.1 h
      exact ⟨_, hfilter (List.mem_map_of_mem hc), rfl, rfl⟩

/-! ## Lines of a compiled graph -/

section Compiled

variable {spec : Specification} (h : g.compile = .ok spec)

include h

/-- What describes an entity stands in the specification. -/
theorem mem_lines_of_mem_bodyLines {d : Description} (hd : d ∈ g.descriptions) {line : String}
    (hline : line ∈ d.bodyLines) : line ∈ Text.lines spec.text := by
  have hentity : line ∈ g.entityForms.flatMap Spec.Form.lines := by
    rw [lines_entityForms]
    refine List.mem_flatMap.2 ⟨d, hd, ?_⟩
    rw [Description.lines]
    split
    · exact List.mem_cons_of_mem _ hline
    · exact hline
  simp only [lines_text_of_compile h, forms, List.flatMap_append, List.mem_append]
  exact Or.inl (Or.inl (Or.inl (Or.inr hentity)))

/-- The text declares an atom of its kind for every entity. -/
theorem atomLine_mem_lines {kind : EntityKind} {id : Identifier} (hid : id ∈ g.identifiers kind) :
    Spec.atomLine (kind.atomLabel id) kind.signature ∈ Text.lines spec.text := by
  obtain ⟨d, hd, rfl, rfl⟩ := exists_description_of_mem_identifiers hid
  exact mem_lines_of_mem_bodyLines h hd List.mem_cons_self

/-- The text binds every value of a description. -/
theorem bindingLine_mem_lines {d : Description} (hd : d ∈ g.descriptions)
    {value : String × String} (hvalue : value ∈ d.values) :
    Spec.bindingLine (d.kind.atomLabel d.id) value.1 value.2 ∈ Text.lines spec.text := by
  refine mem_lines_of_mem_bodyLines h hd ?_
  exact List.mem_append_left _ (List.mem_cons_of_mem _ (List.mem_cons_of_mem _
    (List.mem_map_of_mem hvalue)))

/-- A line that binds a field of references is one of a description. -/
theorem exists_value_of_bindingLine_mem {field : String × EntityKind}
    (hfield : field ∈ referenceFields) {owner value : String} (howner : IsIdentifier owner.toList)
    (hline : Spec.bindingLine owner field.1 value ∈ Text.lines spec.text) :
    ∃ d ∈ g.descriptions, (field.1, value) ∈ d.values := by
  have hspace := space_notMem_of_mem_referenceFields field hfield
  have hdot : '.' ∉ owner.toList := notMem_of_isWordChar howner.isWordChar (by decide)
  have hletter : ∃ c ∈ (owner ++ "." ++ field.1 ++ " = " ++ value).toList.head?,
      c.isAlpha = true := by
    obtain ⟨c, hhead, hc⟩ := howner.exists_head?_eq_some
    exact ⟨c, Spec.head?_append (Spec.head?_append (Spec.head?_append (Spec.head?_append hhead _) _)
      _) _, hc⟩
  have hequals : '=' ∈ (owner ++ "." ++ field.1 ++ " = " ++ value).toList := by simp
  rw [text_of_compile h] at hline
  obtain ⟨e, he, heq⟩ :=
    Spec.exists_equation_of_mem_lines g.isProper_of_mem_forms hline hletter hequals
  rw [equations_forms, List.mem_append] at he
  rcases he with he | he
  · obtain ⟨d, hd, he⟩ := List.mem_flatMap.1 he
    obtain ⟨bound, hbound, rfl⟩ := List.mem_map.1 he
    have hname : bound.1 ∈ d.kind.fieldNames :=
      (isProper_of_mem_descriptions hd).fields ▸ List.mem_map_of_mem hbound
    obtain ⟨-, hbinds⟩ := Spec.binding_inj hdot
      (notMem_of_isWordChar (d.kind.isWordChar_of_mem_atomLabel d.id) (by decide)) hspace
      (space_notMem_of_mem_fieldNames _ _ hname) heq
    exact ⟨d, hd, (Prod.ext hbinds.1 hbinds.2 : (field.1, value) = bound) ▸ hbound⟩
  · obtain ⟨r, -, he⟩ := List.mem_filterMap.1 he
    obtain ⟨function, -, rfl⟩ := Option.map_eq_some_iff.1 he
    obtain ⟨-, hkey, -⟩ := Spec.binding_inj hdot (by decide) hspace (space_notMem_key r) heq
    exact absurd hkey (key_ne_of_mem_referenceFields r field hfield)

/-- In a compiled specification every atom that is named is declared. -/
theorem isClosed_of_compile : spec.IsClosed := by
  have hresolved : g.unresolved? g.references = none :=
    unresolved?_references_eq_none_iff.2 (exists_compile_eq_ok_iff.1 ⟨spec, h⟩)
  intro field hfield owner value howner hline word hword
  obtain ⟨d, hd, hvalue⟩ := exists_value_of_bindingLine_mem h hfield howner hline
  obtain ⟨refs, hrefs, hnames⟩ := exists_references_of_mem_descriptions hd
  refine (hnames.isTarget _ hvalue _ hfield word hword).imp_right (Or.imp_right ?_)
  rintro ⟨r, hr, hkind, rfl⟩
  have hmem : r.target ∈ g.identifiers r.targetKind :=
    (g.resolves_iff r).1 (by simpa using List.find?_eq_none.1 hresolved r (hrefs hr))
  rw [hkind] at hmem
  exact atomLine_mem_lines h hmem

/-- Every reference is bound by a line of the specification. -/
theorem binds_of_mem_references {r : Reference} (hr : r ∈ g.references) : spec.Binds r := by
  obtain ⟨d, hd, refs, hr, hnames⟩ := exists_description_of_mem_references hr
  obtain ⟨value, hvalue, hfield, hword⟩ := hnames.isNamed r hr
  obtain ⟨hkind, howner⟩ := hnames.isOwned r hr
  refine ⟨value.2, ?_, hword⟩
  rw [hkind, howner, ← hfield]
  exact bindingLine_mem_lines h hd hvalue

end Compiled

/-- A graph has a specification exactly if its lists have everything that its systems and
connections refer to, and the tables of ids do not count.  The specification then binds
every reference and declares every atom that it binds one to.  The error is the first
reference that the lists do not have. -/
theorem compile_iff_isResolved (g : Graph) :
    ((∃ spec, g.compile = .ok spec) ↔ g.IsResolved) ∧
      (∀ ids, { g with ids := ids }.compile = g.compile) ∧
      (∀ spec, g.compile = .ok spec → spec.IsClosed ∧ ∀ r ∈ g.references, spec.Binds r) ∧
      ∀ e, g.compile = .error e ↔ ∃ r, e = .unresolved r ∧ g.FirstUnresolved r := by
  refine ⟨exists_compile_eq_ok_iff, fun ids => rfl, fun spec h => ?_, fun e =>
    compile_eq_error_iff⟩
  exact ⟨isClosed_of_compile h, fun r hr => binds_of_mem_references h hr⟩

/-- A data asset is taken out of the list of a graph.  The table still has its id, and the
system that stores it is the error. -/
theorem compile_iff_isResolved_storingPayload :
    ∃ g spec, ofJson (storingPayload "d" "d") = .ok g ∧ g.compile = .ok spec ∧ spec.IsClosed ∧
      { g with data := [] }.ids.data.index? (Identifier.ofText "d") = some 0 ∧
      { g with data := [] }.compile =
        .error (.unresolved ⟨.system, .ofText "s", "stores", .data, .ofText "d"⟩) := by
  have hread : (do
      let g ← ofJson (storingPayload "d" "d")
      pure (decide (g.identifiers .location = [Identifier.ofText "z"] ∧
        g.systems.map (fun s : System => (s.id.safe, s.location, s.stores)) =
          [(Identifier.ofText "s", Identifier.ofText "z", [Identifier.ofText "d"])] ∧
        g.ids.data.index? (Identifier.ofText "d") = some 0))).toOption = some true := by
    decide +kernel
  obtain ⟨g, hg, hdecided⟩ := except_bind_eq_ok_iff.1 (except_toOption_eq_some_iff.1 hread)
  obtain ⟨hlocations, hsystems, hindex⟩ := of_decide_eq_true (Except.ok.inj hdecided)
  obtain ⟨s, hs, hfields⟩ := List.map_eq_singleton_iff.1 hsystems
  obtain ⟨hid, hlocation, hstores⟩ : s.id.safe = .ofText "s" ∧ s.location = .ofText "z" ∧
      s.stores = [.ofText "d"] := by simpa using hfields
  have hspec := (consistent_of_ofJson hg).compile_eq_ok
  have hclosed := ((compile_iff_isResolved g).2.2.1 _ hspec).1
  refine ⟨g, _, hg, hspec, hclosed, hindex, ?_⟩
  refine ((compile_iff_isResolved _).2.2.2 _).2 ⟨_, rfl, ?_⟩
  have hplaced : s.location ∈ { g with data := [] }.identifiers .location := by
    rw [hlocation]
    exact hlocations ▸ List.mem_cons_self
  have hsystem : g.systems = [] ++ s :: [] := hs
  have hstored : s.stores = [] ++ .ofText "d" :: [] := hstores
  rw [← hid]
  exact .system hsystem (List.forall_mem_nil _)
    (.stores hplaced hstored (List.forall_mem_nil _) List.not_mem_nil)

end Graph

end ZoneGuard
