import Mathlib
import ZoneGuard.Proofs.Graph.WellFormed
import ZoneGuard.Proofs.Spec.Description

/-!
# A specification and what it was made from

Two graphs have the same specification exactly if they have the same content:
the same entities in the same order, where an id counts only through its
identifier and a set of data only through its members in order of first
appearance.  One direction says that nothing else can reach the text, the other
that the text keeps everything.
-/

namespace ZoneGuard

open Attribute (atom)
open Json (Value)
open Text (IsLine)

/-! ## Content -/

/-- The id that agrees with its identifier. -/
def EntityId.canonical (id : EntityId) : EntityId := ⟨id.safe.text, id.safe⟩

/-- The zone as far as its lines describe it. -/
def Location.canonical (l : Location) : Location := { l with id := l.id.canonical }

/-- The data asset as far as its lines describe it. -/
def DataAsset.canonical (d : DataAsset) : DataAsset := { d with id := d.id.canonical }

/-- The system as far as its lines describe it. -/
def System.canonical (s : System) : System :=
  { s with id := s.id.canonical, stores := s.stores.eraseDups }

/-- The connection as far as its lines describe it. -/
def Connection.canonical (c : Connection) : Connection :=
  { c with id := c.id.canonical, carries := c.carries.eraseDups }

/-- The graphs have the same entities in the same order, up to the spelling of
ids and up to repeats in sets. -/
structure Graph.SameContent (g h : Graph) : Prop where
  locations : g.locations.map Location.canonical = h.locations.map Location.canonical
  data : g.data.map DataAsset.canonical = h.data.map DataAsset.canonical
  systems : g.systems.map System.canonical = h.systems.map System.canonical
  connections :
    g.connections.map Connection.canonical = h.connections.map Connection.canonical

instance (g h : Graph) : Decidable (g.SameContent h) :=
  decidable_of_iff
    (g.locations.map Location.canonical = h.locations.map Location.canonical
      ∧ g.data.map DataAsset.canonical = h.data.map DataAsset.canonical
      ∧ g.systems.map System.canonical = h.systems.map System.canonical
      ∧ g.connections.map Connection.canonical = h.connections.map Connection.canonical)
    ⟨fun ⟨hlocations, hdata, hsystems, hconnections⟩ =>
      ⟨hlocations, hdata, hsystems, hconnections⟩,
    fun hsame => ⟨hsame.locations, hsame.data, hsame.systems, hsame.connections⟩⟩

@[simp]
theorem EntityId.canonical_inj {id id' : EntityId} :
    id.canonical = id'.canonical ↔ id.safe = id'.safe := by
  constructor
  · intro heq
    have hsafe := congrArg (fun e : EntityId => e.safe) heq
    exact hsafe
  · intro heq
    rw [canonical, canonical, heq]

/-! ## Descriptions of entities -/

def Location.description (l : Location) : Description :=
  ⟨.location, l.id.safe, false, l.fieldValues⟩

def DataAsset.description (d : DataAsset) : Description :=
  ⟨.data, d.id.safe, d.inferred, d.fieldValues⟩

def System.description (s : System) : Description :=
  ⟨.system, s.id.safe, false, s.fieldValues⟩

def Connection.description (c : Connection) : Description :=
  ⟨.connection, c.id.safe, false, c.fieldValues⟩

/-- Zones are described alike exactly if they have the same content. -/
theorem Location.description_eq_iff {l l' : Location} :
    l.description = l'.description ↔ l.canonical = l'.canonical := by
  simp [description, fieldValues, canonical]

/-- Data assets are described alike exactly if they have the same content. -/
theorem DataAsset.description_eq_iff {d d' : DataAsset} :
    d.description = d'.description ↔ d.canonical = d'.canonical := by
  simp only [description, fieldValues, canonical, Description.mk.injEq, DataAsset.mk.injEq,
    List.cons.injEq, Prod.mk.injEq, EntityId.canonical_inj, atom_inj, true_and,
    and_true]
  constructor
  · rintro ⟨hid, hinferred, hgrade, hfileType⟩
    exact ⟨hid, hgrade, hfileType, hinferred⟩
  · rintro ⟨hid, hgrade, hfileType, hinferred⟩
    exact ⟨hid, hinferred, hgrade, hfileType⟩

/-- Systems are described alike exactly if they have the same content. -/
theorem System.description_eq_iff {s s' : System} :
    s.description = s'.description ↔ s.canonical = s'.canonical := by
  simp [description, fieldValues, canonical]

/-- Connections are described alike exactly if they have the same content. -/
theorem Connection.description_eq_iff {c c' : Connection} :
    c.description = c'.description ↔ c.canonical = c'.canonical := by
  simp [description, fieldValues, canonical]

/-! ## Descriptions are proper -/

theorem Location.isProper_description (l : Location) : l.description.IsProper where
  fields := rfl
  isLine := by simp [description, fieldValues]

theorem DataAsset.isProper_description (d : DataAsset) : d.description.IsProper where
  fields := rfl
  isLine := by simp [description, fieldValues]

theorem System.isProper_description (s : System) : s.description.IsProper where
  fields := rfl
  isLine := by simp [description, fieldValues]

theorem Connection.isProper_description (c : Connection) : c.description.IsProper where
  fields := rfl
  isLine := by simp [description, fieldValues]

/-! ## Lines of entities -/

theorem lines_entityForms (kind : EntityKind) (id : Identifier)
    (values : List (String × String)) :
    (entityForms kind id values).flatMap Spec.Form.lines =
      (Description.mk kind id false values).lines := by
  simp [entityForms, Spec.Form.lines, Spec.Signature.head, Spec.braced, Description.lines,
    Description.bodyLines, Description.signatureLine, Description.valueLine, Function.comp_def,
    String.append_assoc]

theorem Location.lines_forms (l : Location) :
    l.forms.flatMap Spec.Form.lines = l.description.lines :=
  lines_entityForms _ _ _

theorem DataAsset.lines_forms (d : DataAsset) :
    d.forms.flatMap Spec.Form.lines = d.description.lines := by
  unfold forms
  rw [List.flatMap_append, lines_entityForms]
  cases hinferred : d.inferred with
  | false => simp [description, hinferred]
  | true =>
      simp [description, hinferred, Description.lines, Description.bodyLines,
        Description.inferredLine, Spec.Form.lines]

theorem System.lines_forms (s : System) :
    s.forms.flatMap Spec.Form.lines = s.description.lines :=
  lines_entityForms _ _ _

theorem Connection.lines_forms (c : Connection) :
    c.forms.flatMap Spec.Form.lines = c.description.lines :=
  lines_entityForms _ _ _

/-- Two lists that are mapped to the same list by one of two functions are
mapped to the same list by the other, if the functions identify the same
elements. -/
theorem map_eq_map_iff {α β γ : Type} {f : α → β} {k : α → γ}
    (h : ∀ a b, f a = f b ↔ k a = k b) {left right : List α} :
    left.map f = right.map f ↔ left.map k = right.map k := by
  induction left generalizing right with
  | nil => cases right <;> simp
  | cons a left ih =>
      cases right with
      | nil => simp
      | cons b right => rw [List.map_cons, List.map_cons, List.map_cons, List.map_cons,
          List.cons.injEq, List.cons.injEq, h, ih]

namespace Graph

/-- The descriptions of all entities, in the order of their lines. -/
def descriptions (g : Graph) : List Description :=
  g.locations.map Location.description ++ g.data.map DataAsset.description
    ++ g.systems.map System.description ++ g.connections.map Connection.description

theorem lines_entityForms (g : Graph) :
    g.entityForms.flatMap Spec.Form.lines = g.descriptions.flatMap Description.lines := by
  simp [entityForms, descriptions, List.flatMap_assoc, List.flatMap_map,
    Location.lines_forms, DataAsset.lines_forms, System.lines_forms, Connection.lines_forms]

/-- All entities are described in lines that can be told apart. -/
theorem isProper_of_mem_descriptions {g : Graph} {d : Description}
    (h : d ∈ g.descriptions) : d.IsProper := by
  simp only [descriptions, List.mem_append, List.mem_map] at h
  rcases h with ((⟨l, -, rfl⟩ | ⟨a, -, rfl⟩) | ⟨s, -, rfl⟩) | ⟨c, -, rfl⟩
  · exact l.isProper_description
  · exact a.isProper_description
  · exact s.isProper_description
  · exact c.isProper_description

/-- The entities of one kind among the descriptions. -/
theorem filter_kind_descriptions (g : Graph) (kind : EntityKind) :
    g.descriptions.filter (·.kind = kind) =
      match kind with
      | .location => g.locations.map Location.description
      | .data => g.data.map DataAsset.description
      | .system => g.systems.map System.description
      | .connection => g.connections.map Connection.description := by
  cases kind <;>
    simp [descriptions, List.filter_append, List.filter_map, Function.comp_def,
      Location.description, DataAsset.description, System.description, Connection.description]

/-- Graphs with the same content are described in the same way, and only they
are. -/
theorem descriptions_eq_iff {g h : Graph} :
    g.descriptions = h.descriptions ↔ g.SameContent h := by
  constructor
  · intro heq
    have hkind (kind : EntityKind) := congrArg (List.filter (·.kind = kind)) heq
    simp only [filter_kind_descriptions] at hkind
    exact {
      locations := (map_eq_map_iff fun _ _ => Location.description_eq_iff).1 (hkind .location)
      data := (map_eq_map_iff fun _ _ => DataAsset.description_eq_iff).1 (hkind .data)
      systems := (map_eq_map_iff fun _ _ => System.description_eq_iff).1 (hkind .system)
      connections :=
        (map_eq_map_iff fun _ _ => Connection.description_eq_iff).1 (hkind .connection) }
  · intro hsame
    simp only [descriptions,
      (map_eq_map_iff fun _ _ => Location.description_eq_iff).2 hsame.locations,
      (map_eq_map_iff fun _ _ => DataAsset.description_eq_iff).2 hsame.data,
      (map_eq_map_iff fun _ _ => System.description_eq_iff).2 hsame.systems,
      (map_eq_map_iff fun _ _ => Connection.description_eq_iff).2 hsame.connections]

theorem SameContent.count_eq {g h : Graph} (hsame : g.SameContent h) (kind : EntityKind) :
    g.count kind = h.count kind := by
  cases kind with
  | location => simpa [count] using congrArg List.length hsame.locations
  | data => simpa [count] using congrArg List.length hsame.data
  | system => simpa [count] using congrArg List.length hsame.systems
  | connection => simpa [count] using congrArg List.length hsame.connections

theorem SameContent.scope_eq {g h : Graph} (hsame : g.SameContent h) : g.scope = h.scope := by
  rw [scope, scope, List.map_congr_left fun kind _ => hsame.count_eq kind]

/-! ## The text of a graph -/

def runLine (n : Nat) : String := "run \x7b\x7d for " ++ toString n

theorem isLine_runLine (n : Nat) : IsLine (runLine n) := by
  rw [runLine, Text.isLine_append]
  exact ⟨by decide, Text.isLine_toString n⟩

def entityLines (g : Graph) : List String := g.descriptions.flatMap Description.lines

theorem isLine_of_mem_entityLines {g : Graph} : ∀ line ∈ g.entityLines, IsLine line := by
  intro line hline
  obtain ⟨d, hd, hline⟩ := List.mem_flatMap.1 hline
  exact Description.isLine_of_mem_lines (isProper_of_mem_descriptions hd) line hline

/-- The lines of entities show the content of a graph. -/
theorem entityLines_eq_iff {g h : Graph} : g.entityLines = h.entityLines ↔ g.SameContent h := by
  rw [← descriptions_eq_iff]
  constructor
  · intro heq
    have hmap := Text.map_eq_of_flatMap_eq id
      (fun d _ => d.lines_ne_nil) (fun d _ => d.lines_ne_nil)
      (fun d hd d' hd' us vs => Description.lines_append_eq
        (isProper_of_mem_descriptions hd) (isProper_of_mem_descriptions hd'))
      heq
    rwa [List.map_id, List.map_id] at hmap
  · intro heq
    rw [entityLines, entityLines, heq]

/-- A specification is the entities of its graph between texts that are the
same for all graphs, and the search. -/
theorem exists_render_forms : ∃ before behind : String, ∀ g : Graph,
    Spec.render g.forms =
      before ++ (Text.unlines g.entityLines ++ (behind ++ ("\n" ++ (runLine g.scope ++ "\n")))) := by
  -- The last form before the search is a blank line.
  obtain ⟨forms, hblank⟩ : ∃ forms, resultForms = forms ++ [.blank] :=
    ⟨resultForms.dropLast, rfl⟩
  refine ⟨Text.unlines (commonForms.flatMap Spec.Form.lines),
    Text.unlines (forms.flatMap Spec.Form.lines), fun g => ?_⟩
  unfold Spec.render Graph.forms
  rw [hblank]
  simp only [List.flatMap_append, List.flatMap_singleton, lines_entityForms, entityLines,
    Text.unlines_append, Text.unlines_singleton, Spec.Form.lines, runLine, String.append_assoc,
    String.empty_append]

/-- Texts of graphs are the same exactly if the graphs have the same content. -/
theorem render_forms_eq_iff {g h : Graph} :
    Spec.render g.forms = Spec.render h.forms ↔ g.SameContent h := by
  obtain ⟨before, behind, hrender⟩ := exists_render_forms
  rw [hrender, hrender, ← entityLines_eq_iff]
  constructor
  · intro heq
    have hchars := congrArg String.toList heq
    simp only [String.toList_append] at hchars
    have hrest := List.append_cancel_left hchars
    have hends : ((Text.unlines g.entityLines).toList ++ behind.toList) ++
        '\n' :: (runLine g.scope).toList =
          ((Text.unlines h.entityLines).toList ++ behind.toList) ++
            '\n' :: (runLine h.scope).toList :=
      (List.append_left_inj ['\n']).1 (by simpa using hrest)
    have hentities := (Text.append_cons_eq_iff_of_notMem_right (isLine_runLine g.scope)
      (isLine_runLine h.scope)).1 hends
    exact Text.unlines_injOn isLine_of_mem_entityLines isLine_of_mem_entityLines
      (String.toList_injective (List.append_cancel_right hentities.1))
  · intro heq
    rw [heq, (entityLines_eq_iff.1 heq).scope_eq]

/-- A compiled specification is the rendering of the graph's forms. -/
theorem text_of_compile {g : Graph} {s : Specification} (h : g.compile = .ok s) :
    s.text = Spec.render g.forms := by
  rw [compile_eq, failOn_eq_ok_iff] at h
  rw [← h.2]

/-- Two graphs with specifications have the same one exactly if they have the
same entities in the same order, up to the spelling of ids and up to repeats in
sets of data.  So nothing of an id but its identifier reaches the text, and the
text of no other graph can be imitated. -/
theorem text_eq_iff_sameContent {g h : Graph} {s t : Specification}
    (hg : g.compile = .ok s) (hh : h.compile = .ok t) :
    s.text = t.text ↔ g.SameContent h := by
  rw [text_of_compile hg, text_of_compile hh, render_forms_eq_iff]

/-- A system that stores the data assets of a list, where one of them is
declared. -/
def storingPayload (id stores : String) : Value :=
  .object
    [("data", .array [.object [("id", .string id)]]),
     ("locations", .array [.object [("id", .string "z")]]),
     ("systems", .array
      [.object [("id", .string "s"), ("location", .string "z"), ("stores", .string stores)]])]

theorem text_eq_iff_sameContent_storingPayload :
    ∃ g h s t, ofJson (storingPayload "d.1" "d.1, e, d.1") = .ok g ∧
      ofJson (storingPayload "d_1" "d_1, e") = .ok h ∧ g ≠ h ∧
      g.compile = .ok s ∧ h.compile = .ok t ∧ s.text = t.text := by
  have hread : (do
      let g ← ofJson (storingPayload "d.1" "d.1, e, d.1")
      let h ← ofJson (storingPayload "d_1" "d_1, e")
      pure (decide (g ≠ h ∧ g.SameContent h))).toOption = some true := by decide +kernel
  obtain ⟨g, hg, hrest⟩ := except_bind_eq_ok_iff.1 (except_toOption_eq_some_iff.1 hread)
  obtain ⟨h, hh, hdecided⟩ := except_bind_eq_ok_iff.1 hrest
  obtain ⟨hne, hsame⟩ := of_decide_eq_true (Except.ok.inj hdecided)
  have hs := (consistent_of_ofJson hg).compile_eq_ok
  have ht := (consistent_of_ofJson hh).compile_eq_ok
  exact ⟨g, h, _, _, hg, hh, hne, hs, ht, (text_eq_iff_sameContent hs ht).2 hsame⟩

end Graph

end ZoneGuard
