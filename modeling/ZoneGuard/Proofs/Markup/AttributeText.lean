import Mathlib
import ZoneGuard.Markup.Tag

/-!
# Attributes as they are written

An attribute is a key, an equals sign and a value between quotes.  Layout may stand around
the sign and between attributes.  From a text that consists of such attributes, with no key
twice, exactly these are read, and no other text is read.
-/

namespace ZoneGuard.Markup

open Text (byteLength)

theorem except_map_eq_ok_iff {ε α β : Type} {x : Except ε α} {f : α → β} {b : β} :
    x.map f = .ok b ↔ ∃ a, x = .ok a ∧ f a = b := by
  cases x with
  | error e => simp [Except.map]
  | ok a => simp [Except.map]

def IsGap (cs : List Char) : Prop := ∀ c ∈ cs, Text.isLayout c = true

/-- A key begins with any character but layout.  Behind it, an equals sign ends the key too. -/
inductive IsKey : List Char → Prop
  | cons {c : Char} {cs : List Char} (hc : Text.isLayout c = false)
      (hrest : ∀ d ∈ cs, d ≠ '=' ∧ Text.isLayout d = false) : IsKey (c :: cs)

inductive IsAttributeText : List Char → List Char → List Char → Prop
  | intro {key gap gap' value : List Char} {quote : Char} (hkey : IsKey key) (hgap : IsGap gap)
      (hgap' : IsGap gap') (hquote : quote = '"' ∨ quote = '\'') (hvalue : quote ∉ value) :
      IsAttributeText (key ++ gap ++ '=' :: (gap' ++ quote :: (value ++ [quote]))) key value

/-- The text is that of the attributes, each given by its key and its value. -/
inductive SpellsAttributes : List Char → List (List Char × List Char) → Prop
  | nil {gap : List Char} (hgap : IsGap gap) : SpellsAttributes gap []
  | cons {gap text key value rest : List Char} {attributes : List (List Char × List Char)}
      (hgap : IsGap gap) (htext : IsAttributeText text key value)
      (hrest : SpellsAttributes rest attributes) :
      SpellsAttributes (gap ++ text ++ rest) ((key, value) :: attributes)

def WrittenAttribute.pair (w : WrittenAttribute) : List Char × List Char := (w.key, w.value)

/-! ## Steps -/

theorem writtenAttributes_cons {known known' : List WrittenAttribute}
    {state state' : AttributeState} {here : Nat} {c : Char}
    (h : state.next known here c = .ok (state', known')) (cs : List Char) :
    writtenAttributes known state here (c :: cs) =
      writtenAttributes known' state' (here + c.utf8Size) cs := by
  rw [writtenAttributes, h]

theorem writtenAttributes_cons_eq_ok {known all : List WrittenAttribute} {state : AttributeState}
    {here : Nat} {c : Char} {cs : List Char}
    (h : writtenAttributes known state here (c :: cs) = .ok all) :
    ∃ state' known', state.next known here c = .ok (state', known') ∧
      writtenAttributes known' state' (here + c.utf8Size) cs = .ok all := by
  rw [writtenAttributes] at h
  split at h
  · cases h
  · next hnext => exact ⟨_, _, hnext, h⟩

/-- Characters that are only taken, or passed over, change nothing else. -/
theorem writtenAttributes_append {known : List WrittenAttribute}
    (state : List Char → AttributeState) {cs : List Char}
    (h : ∀ c ∈ cs, ∀ taken here,
      (state taken).next known here c = .ok (state (c :: taken), known))
    (taken rest : List Char) (here : Nat) :
    writtenAttributes known (state taken) here (cs ++ rest) =
      writtenAttributes known (state (cs.reverse ++ taken)) (here + byteLength cs) rest := by
  induction cs generalizing taken here with
  | nil => rfl
  | cons c cs ih =>
      rw [List.cons_append, writtenAttributes_cons (h c List.mem_cons_self _ _),
        ih fun d hd => h d (List.mem_cons_of_mem _ hd)]
      simp [Nat.add_assoc]

/-- The longest part at the beginning whose characters have a property. -/
theorem exists_append_of_head? (p : Char → Bool) (cs : List Char) :
    ∃ front back, cs = front ++ back ∧ (∀ c ∈ front, p c = true) ∧
      ∀ c ∈ back.head?, p c = false := by
  refine ⟨cs.takeWhile p, cs.dropWhile p, List.takeWhile_append_dropWhile.symm,
    fun c hc => List.mem_takeWhile_imp hc, fun c hc => ?_⟩
  have hhead := List.head?_dropWhile_not p cs
  rw [hc] at hhead
  exact hhead

/-! ## Reading what is written -/

/-- Layout between attributes is passed over. -/
theorem writtenAttributes_start_gap {known : List WrittenAttribute} {gap : List Char}
    (h : IsGap gap) (rest : List Char) (here : Nat) :
    writtenAttributes known .start here (gap ++ rest) =
      writtenAttributes known .start (here + byteLength gap) rest :=
  writtenAttributes_append (fun _ => .start)
    (fun c hc _ _ => by simp [AttributeState.next, h c hc]) [] rest here

theorem writtenAttributes_key {known : List WrittenAttribute} {p : Nat} {cs : List Char}
    (h : ∀ d ∈ cs, d ≠ '=' ∧ Text.isLayout d = false) (taken rest : List Char) (here : Nat) :
    writtenAttributes known (.key p taken) here (cs ++ rest) =
      writtenAttributes known (.key p (cs.reverse ++ taken)) (here + byteLength cs) rest :=
  writtenAttributes_append (.key p) (fun c hc _ _ => by simp [AttributeState.next, h c hc]) taken
    rest here

theorem writtenAttributes_afterKey {known : List WrittenAttribute} {p : Nat} {taken gap : List Char}
    (h : IsGap gap) (rest : List Char) (here : Nat) :
    writtenAttributes known (.afterKey p taken) here (gap ++ rest) =
      writtenAttributes known (.afterKey p taken) (here + byteLength gap) rest :=
  writtenAttributes_append (fun _ => .afterKey p taken)
    (fun c hc _ _ => by
      have hne : c ≠ '=' := by
        rintro rfl
        exact absurd (h _ hc) (by decide)
      simp [AttributeState.next, h c hc, hne]) [] rest here

theorem writtenAttributes_beforeValue {known : List WrittenAttribute} {p : Nat}
    {key gap : List Char} (h : IsGap gap) (rest : List Char) (here : Nat) :
    writtenAttributes known (.beforeValue p key) here (gap ++ rest) =
      writtenAttributes known (.beforeValue p key) (here + byteLength gap) rest :=
  writtenAttributes_append (fun _ => .beforeValue p key)
    (fun c hc _ _ => by simp [AttributeState.next, h c hc]) [] rest here

/-- A value goes on up to its closing quote. -/
theorem writtenAttributes_value {known : List WrittenAttribute} {p : Nat} {quote : Char}
    {key cs : List Char} (h : quote ∉ cs) (taken rest : List Char) (here : Nat) :
    writtenAttributes known (.value p key quote taken) here (cs ++ rest) =
      writtenAttributes known (.value p key quote (cs.reverse ++ taken)) (here + byteLength cs)
        rest :=
  writtenAttributes_append (.value p key quote) (fun c hc _ _ => by
    have hne : c ≠ quote := fun heq => h (heq ▸ hc)
    exact if_neg hne) taken rest here

/-- Behind a key, layout and the equals sign are read as if layout had come before. -/
theorem writtenAttributes_key_eq_afterKey {known : List WrittenAttribute} {p : Nat}
    {taken cs : List Char} (h : ∀ c ∈ cs.head?, c = '=' ∨ Text.isLayout c = true) (here : Nat) :
    writtenAttributes known (.key p taken) here cs =
      writtenAttributes known (.afterKey p taken) here cs := by
  cases cs with
  | nil => rfl
  | cons c cs =>
      have hnext : AttributeState.next known here c (.key p taken) =
          AttributeState.next known here c (.afterKey p taken) := by
        rcases h c rfl with rfl | hlayout
        · rfl
        · simp [AttributeState.next, hlayout]
      rw [writtenAttributes, writtenAttributes, hnext]

/-- A key is taken exactly if no attribute has it yet. -/
theorem afterEquals_eq_ok_iff {known : List WrittenAttribute} {p : Nat} {taken : List Char}
    {state : AttributeState} :
    AttributeState.afterEquals known p taken = .ok state ↔
      (∀ w ∈ known, w.key ≠ taken.reverse) ∧ state = .beforeValue p taken.reverse := by
  rw [AttributeState.afterEquals]
  split
  · next w hfound =>
    have hkey : w.key = taken.reverse := by simpa using List.find?_some hfound
    exact iff_of_false nofun fun h => h.1 w (List.mem_of_find?_eq_some hfound) hkey
  · next hnone =>
    have hnew : ∀ w ∈ known, w.key ≠ taken.reverse := by simpa using hnone
    constructor
    · intro h
      exact ⟨hnew, (Except.ok.inj h).symm⟩
    · rintro ⟨-, rfl⟩
      rfl

/-- An attribute with a new key is read, whatever follows it. -/
theorem writtenAttributes_attribute {known : List WrittenAttribute} {text key value : List Char}
    (h : IsAttributeText text key value) (hnew : ∀ w ∈ known, w.key ≠ key) (rest : List Char)
    (here : Nat) :
    writtenAttributes known .start here (text ++ rest) =
      writtenAttributes (known ++ [⟨key, here, value⟩]) .start (here + byteLength text) rest := by
  cases h with
  | @intro _ gap gap' _ quote hkey hgap hgap' hquote hvalue =>
      cases hkey with
      | @cons c cs hc hrest =>
          have hfirst : AttributeState.next known here c .start = .ok (.key here [c], known) := by
            simp [AttributeState.next, hc]
          have hbehind : ∀ d ∈ (gap ++ '=' :: (gap' ++ quote :: (value ++ quote :: rest))).head?,
              d = '=' ∨ Text.isLayout d = true := by
            cases gap with
            | nil => simp
            | cons d gap => simpa using Or.inr (hgap d List.mem_cons_self)
          have hequals (p here : Nat) : AttributeState.next known here '='
              (.afterKey p (cs.reverse ++ [c])) = .ok (.beforeValue p (c :: cs), known) := by
            have hafter : AttributeState.afterEquals known p (cs.reverse ++ [c]) =
                .ok (.beforeValue p (c :: cs)) :=
              afterEquals_eq_ok_iff.2 (by simpa using hnew)
            rw [AttributeState.next, if_pos rfl, hafter]
            rfl
          have hopen (p here : Nat) : AttributeState.next known here quote
              (.beforeValue p (c :: cs)) = .ok (.value p (c :: cs) quote [], known) := by
            rcases hquote with rfl | rfl <;> rfl
          have hclose (p here : Nat) : AttributeState.next known here quote
              (.value p (c :: cs) quote (value.reverse ++ [])) =
                .ok (.start, known ++ [⟨c :: cs, p, value⟩]) := by
            simp [AttributeState.next]
          simp only [List.cons_append, List.append_assoc, List.nil_append]
          rw [writtenAttributes_cons hfirst, writtenAttributes_key hrest,
            writtenAttributes_key_eq_afterKey hbehind, writtenAttributes_afterKey hgap,
            writtenAttributes_cons (hequals _ _), writtenAttributes_beforeValue hgap',
            writtenAttributes_cons (hopen _ _), writtenAttributes_value hvalue,
            writtenAttributes_cons (hclose _ _)]
          simp [Nat.add_assoc]

/-! ## What is read is written -/

/-- If reading ends well, a value has ended. -/
theorem exists_of_writtenAttributes_value {known all : List WrittenAttribute} {p here : Nat}
    {key cs : List Char} {quote : Char}
    (h : writtenAttributes known (.value p key quote []) here cs = .ok all) :
    ∃ value rest here', cs = value ++ quote :: rest ∧ quote ∉ value ∧
      writtenAttributes (known ++ [⟨key, p, value⟩]) .start here' rest = .ok all := by
  obtain ⟨value, back, rfl, hvalue, hback⟩ := exists_append_of_head? (· != quote) cs
  have hnot : quote ∉ value := fun hmem => by simpa using hvalue quote hmem
  rw [writtenAttributes_value hnot] at h
  cases back with
  | nil => cases h
  | cons c rest =>
      have hc : c = quote := by simpa using hback c rfl
      subst hc
      obtain ⟨state, known', hnext, hrest⟩ := writtenAttributes_cons_eq_ok h
      have hclose : AttributeState.next known (here + byteLength value) c
          (.value p key c (value.reverse ++ [])) =
            .ok (.start, known ++ [⟨key, p, value⟩]) := by
        simp [AttributeState.next]
      cases hclose.symm.trans hnext
      exact ⟨value, rest, _, rfl, hnot, hrest⟩

/-- If reading ends well, the quote that opens a value comes next. -/
theorem exists_of_writtenAttributes_beforeValue {known all : List WrittenAttribute}
    {p here : Nat} {key cs : List Char}
    (h : writtenAttributes known (.beforeValue p key) here cs = .ok all) :
    ∃ gap quote rest here', cs = gap ++ quote :: rest ∧ IsGap gap ∧
      (quote = '"' ∨ quote = '\'') ∧
      writtenAttributes known (.value p key quote []) here' rest = .ok all := by
  obtain ⟨gap, back, rfl, hgap, hback⟩ := exists_append_of_head? Text.isLayout cs
  rw [writtenAttributes_beforeValue hgap] at h
  cases back with
  | nil => cases h
  | cons quote rest =>
      obtain ⟨state, known', hnext, hrest⟩ := writtenAttributes_cons_eq_ok h
      rw [AttributeState.next, if_neg (by simp [hback quote rfl])] at hnext
      split at hnext
      · next hquote =>
        cases hnext
        exact ⟨gap, quote, rest, _, rfl, hgap, by simpa using hquote, hrest⟩
      · cases hnext

/-- If reading ends well, the equals sign behind a key comes next, and the key is new. -/
theorem exists_of_writtenAttributes_afterKey {known all : List WrittenAttribute} {p here : Nat}
    {taken cs : List Char}
    (h : writtenAttributes known (.afterKey p taken) here cs = .ok all) :
    ∃ gap rest here', cs = gap ++ '=' :: rest ∧ IsGap gap ∧
      (∀ w ∈ known, w.key ≠ taken.reverse) ∧
      writtenAttributes known (.beforeValue p taken.reverse) here' rest = .ok all := by
  obtain ⟨gap, back, rfl, hgap, hback⟩ := exists_append_of_head? Text.isLayout cs
  rw [writtenAttributes_afterKey hgap] at h
  cases back with
  | nil => cases h
  | cons c rest =>
      obtain ⟨state, known', hnext, hrest⟩ := writtenAttributes_cons_eq_ok h
      rw [AttributeState.next] at hnext
      split at hnext
      · next hc =>
        obtain ⟨state', hafter, hpair⟩ := except_map_eq_ok_iff.1 hnext
        obtain ⟨hnew, rfl⟩ := afterEquals_eq_ok_iff.1 hafter
        cases hpair
        exact ⟨gap, rest, _, by rw [hc], hgap, hnew, hrest⟩
      · rw [if_neg (by simp [hback c rfl])] at hnext
        cases hnext

/-- If reading ends well, the rest of an attribute comes behind the beginning of its key. -/
theorem exists_of_writtenAttributes_key {known all : List WrittenAttribute} {p here : Nat}
    {c : Char} (hc : Text.isLayout c = false) {cs : List Char}
    (h : writtenAttributes known (.key p [c]) here cs = .ok all) :
    ∃ text key value rest here', c :: cs = text ++ rest ∧ IsAttributeText text key value ∧
      (∀ w ∈ known, w.key ≠ key) ∧
      writtenAttributes (known ++ [⟨key, p, value⟩]) .start here' rest = .ok all := by
  obtain ⟨more, behind, rfl, hmore, hend⟩ :=
    exists_append_of_head? (fun d => d != '=' && !Text.isLayout d) cs
  have hmore : ∀ d ∈ more, d ≠ '=' ∧ Text.isLayout d = false := by simpa using hmore
  have hend : ∀ d ∈ behind.head?, d = '=' ∨ Text.isLayout d = true := by
    intro d hd
    by_contra hnot
    simpa [not_or.1 hnot] using hend d hd
  rw [writtenAttributes_key hmore, writtenAttributes_key_eq_afterKey hend] at h
  obtain ⟨gap, behindSign, _, rfl, hgap, hnew, h⟩ := exists_of_writtenAttributes_afterKey h
  have hkey : (more.reverse ++ [c]).reverse = c :: more := by simp
  rw [hkey] at hnew h
  obtain ⟨gap', quote, inner, _, rfl, hgap', hquote, h⟩ :=
    exists_of_writtenAttributes_beforeValue h
  obtain ⟨value, rest, here', rfl, hvalue, h⟩ := exists_of_writtenAttributes_value h
  exact ⟨_, c :: more, value, rest, here', by simp,
    .intro (.cons hc hmore) hgap hgap' hquote hvalue, hnew, h⟩

/-- If reading ends well, nothing but layout is left, or an attribute with a new key. -/
theorem exists_of_writtenAttributes_start {known all : List WrittenAttribute} {here : Nat}
    {cs : List Char} (h : writtenAttributes known .start here cs = .ok all) :
    (IsGap cs ∧ all = known) ∨ ∃ gap text key value rest p here', cs = gap ++ text ++ rest ∧
      IsGap gap ∧ IsAttributeText text key value ∧ (∀ w ∈ known, w.key ≠ key) ∧
      writtenAttributes (known ++ [⟨key, p, value⟩]) .start here' rest = .ok all := by
  obtain ⟨gap, back, rfl, hgap, hback⟩ := exists_append_of_head? Text.isLayout cs
  rw [writtenAttributes_start_gap hgap] at h
  cases back with
  | nil =>
      cases h
      exact Or.inl ⟨by rwa [List.append_nil], rfl⟩
  | cons c behind =>
      have hc : Text.isLayout c = false := hback c rfl
      have hfirst : AttributeState.next known (here + byteLength gap) c .start =
          .ok (.key (here + byteLength gap) [c], known) := by
        simp [AttributeState.next, hc]
      rw [writtenAttributes_cons hfirst] at h
      obtain ⟨text, key, value, rest, here', hsplit, htext, hnew, hrest⟩ :=
        exists_of_writtenAttributes_key hc h
      exact Or.inr ⟨gap, text, key, value, rest, _, here', by rw [hsplit, List.append_assoc],
        hgap, htext, hnew, hrest⟩

/-! ## All attributes -/

/-- Attributes with different keys are read from their spelling. -/
theorem exists_writtenAttributes_of_spells {cs : List Char}
    {attributes : List (List Char × List Char)} (h : SpellsAttributes cs attributes)
    (hnodup : (attributes.map (·.1)).Nodup) {known : List WrittenAttribute}
    (hnew : ∀ w ∈ known, ∀ a ∈ attributes, w.key ≠ a.1) (here : Nat) :
    ∃ written, writtenAttributes known .start here cs = .ok (known ++ written) ∧
      written.map WrittenAttribute.pair = attributes := by
  induction h generalizing known here with
  | @nil gap hgap =>
      refine ⟨[], ?_, rfl⟩
      rw [← List.append_nil gap, writtenAttributes_start_gap hgap, List.append_nil]
      rfl
  | @cons gap text key value rest attributes hgap htext hrest ih =>
      rw [List.map_cons, List.nodup_cons] at hnodup
      have hnewRest : ∀ w ∈ known ++ [⟨key, here + byteLength gap, value⟩], ∀ a ∈ attributes,
          w.key ≠ a.1 := by
        intro w hw a ha
        rcases List.mem_append.1 hw with hw | hw
        · exact hnew w hw a (List.mem_cons_of_mem _ ha)
        · rw [List.mem_singleton.1 hw]
          exact fun heq => hnodup.1 (List.mem_map.2 ⟨a, ha, heq.symm⟩)
      obtain ⟨written, hread, rfl⟩ := ih hnodup.2 hnewRest (here + byteLength gap + byteLength text)
      refine ⟨⟨key, here + byteLength gap, value⟩ :: written, ?_, rfl⟩
      rw [List.append_assoc, writtenAttributes_start_gap hgap,
        writtenAttributes_attribute htext fun w hw => hnew w hw _ List.mem_cons_self, hread,
        List.append_assoc, List.singleton_append]

theorem spells_of_writtenAttributes {known all : List WrittenAttribute} {here : Nat}
    {cs : List Char} (h : writtenAttributes known .start here cs = .ok all) :
    ∃ written, all = known ++ written ∧ SpellsAttributes cs (written.map WrittenAttribute.pair) ∧
      (written.map (·.key)).Nodup ∧ ∀ w ∈ known, ∀ w' ∈ written, w.key ≠ w'.key := by
  -- Each attribute that is read makes the text shorter.
  induction hlength : cs.length using Nat.strongRecOn generalizing cs known here with
  | ind n ih =>
      subst hlength
      rcases exists_of_writtenAttributes_start h with
        ⟨hgap, rfl⟩ | ⟨gap, text, key, value, rest, p, here', rfl, hgap, htext, hnew, hrest⟩
      · exact ⟨[], (List.append_nil _).symm, .nil hgap, List.nodup_nil, by simp⟩
      · have hshorter : rest.length < (gap ++ text ++ rest).length := by
          cases htext
          simp
          omega
        obtain ⟨written, rfl, hspells, hnodup, hother⟩ := ih _ hshorter hrest rfl
        refine ⟨⟨key, p, value⟩ :: written, by simp, .cons hgap htext hspells, ?_, ?_⟩
        · rw [List.map_cons, List.nodup_cons]
          refine ⟨fun hmem => ?_, hnodup⟩
          obtain ⟨w, hw, hkey⟩ := List.mem_map.1 hmem
          exact hother ⟨key, p, value⟩ (by simp) w hw hkey.symm
        · intro w hw w' hw'
          rcases List.mem_cons.1 hw' with rfl | hw'
          · exact hnew w hw
          · exact hother w (List.mem_append_left _ hw) w' hw'

/-- The attributes that are read are those that are written, and no key is written twice. -/
theorem exists_writtenAttributes_iff {cs : List Char} {attributes : List (List Char × List Char)}
    (here : Nat) :
    (∃ written, writtenAttributes [] .start here cs = .ok written ∧
        written.map WrittenAttribute.pair = attributes) ↔
      SpellsAttributes cs attributes ∧ (attributes.map (·.1)).Nodup := by
  constructor
  · rintro ⟨written, hread, rfl⟩
    obtain ⟨written, rfl, hspells, hnodup, -⟩ := spells_of_writtenAttributes hread
    rw [List.map_map]
    exact ⟨hspells, hnodup⟩
  · rintro ⟨hspells, hnodup⟩
    exact exists_writtenAttributes_of_spells hspells hnodup (List.forall_mem_nil _) here

/-! ## Opening tags -/

def reportedAttribute (a : List Char × List Char) : String × String :=
  (String.ofList a.1, valueText a.2)

/-- What stands between the brackets of an opening tag: its name, its attributes and, if it is
self-closing, a slash. -/
inductive IsOpeningContent : List Char → List Char → List (List Char × List Char) → Bool → Prop
  | intro {name cs : List Char} {attributes : List (List Char × List Char)} {selfClosing : Bool}
      (hname : ∀ c ∈ name, Text.isLayout c = false)
      (hbehind : ∀ c ∈ cs.head?, Text.isLayout c = true)
      (hspells : SpellsAttributes cs attributes) (hnodup : (attributes.map (·.1)).Nodup)
      (hlast : selfClosing = false → (name ++ cs).getLast? ≠ some '/') :
      IsOpeningContent (name ++ cs ++ if selfClosing then ['/'] else []) name attributes
        selfClosing

theorem tagName_append {name cs : List Char} (hname : ∀ c ∈ name, Text.isLayout c = false)
    (hbehind : ∀ c ∈ cs.head?, Text.isLayout c = true) : tagName (name ++ cs) = name := by
  rw [tagName, List.takeWhile_append_of_pos fun c hc => by simp [hname c hc]]
  cases cs with
  | nil => simp
  | cons c cs => simp [hbehind c rfl]

/-- What is read of an opening tag, without the slash that it may end in. -/
theorem openingTag_append {name cs : List Char} {selfClosing : Bool}
    (hname : ∀ c ∈ name, Text.isLayout c = false)
    (hbehind : ∀ c ∈ cs.head?, Text.isLayout c = true)
    (hlast : selfClosing = false → (name ++ cs).getLast? ≠ some '/') :
    openingTag (name ++ cs ++ if selfClosing then ['/'] else []) =
      match writtenAttributes [] .start (byteLength name) cs with
      | .error e => .error (String.ofList name, e)
      | .ok written =>
        .ok (.opening (String.ofList name) ((written.map WrittenAttribute.pair).map
          reportedAttribute) selfClosing) := by
  have hslash : ((name ++ cs ++ if selfClosing then ['/'] else []).getLast? == some '/') =
      selfClosing := by
    cases selfClosing with
    | true => simp
    | false => simpa using hlast rfl
  have hbody : (if selfClosing then (name ++ cs ++ if selfClosing then ['/'] else []).dropLast
      else name ++ cs ++ if selfClosing then ['/'] else []) = name ++ cs := by
    cases selfClosing with
    | true => exact List.dropLast_concat
    | false => exact List.append_nil _
  simp only [openingTag, hslash, hbody, tagName_append hname hbehind, List.drop_left]
  cases writtenAttributes [] .start (byteLength name) cs with
  | error e => rfl
  | ok written =>
      dsimp only
      rw [List.map_map]
      rfl

/-- Opening tags are read if they are written in this way, and not otherwise. -/
theorem openingTag_eq_ok_iff {content : List Char} {tag : Tag} :
    openingTag content = .ok tag ↔ ∃ name attributes selfClosing,
      IsOpeningContent content name attributes selfClosing ∧
      tag = .opening (String.ofList name) (attributes.map reportedAttribute) selfClosing := by
  constructor
  · intro h
    obtain ⟨body, selfClosing, rfl, hlast⟩ : ∃ body selfClosing,
        content = (body ++ if selfClosing then ['/'] else []) ∧
          (selfClosing = false → body.getLast? ≠ some '/') := by
      by_cases hslash : content.getLast? = some '/'
      · obtain ⟨body, rfl⟩ := List.getLast?_eq_some_iff.1 hslash
        exact ⟨body, true, rfl, by simp⟩
      · exact ⟨content, false, (List.append_nil _).symm, fun _ => hslash⟩
    obtain ⟨name, cs, rfl, hname, hbehind⟩ := exists_append_of_head? (!Text.isLayout ·) body
    have hname : ∀ c ∈ name, Text.isLayout c = false := by simpa using hname
    have hbehind : ∀ c ∈ cs.head?, Text.isLayout c = true := by simpa using hbehind
    rw [openingTag_append hname hbehind hlast] at h
    split at h
    · cases h
    · next written hread =>
      cases h
      obtain ⟨hspells, hnodup⟩ := (exists_writtenAttributes_iff _).1 ⟨written, hread, rfl⟩
      exact ⟨name, _, selfClosing, .intro hname hbehind hspells hnodup hlast, rfl⟩
  · rintro ⟨_, _, _, ⟨hname, hbehind, hspells, hnodup, hlast⟩, rfl⟩
    obtain ⟨written, hread, rfl⟩ := (exists_writtenAttributes_iff _).2 ⟨hspells, hnodup⟩
    rw [openingTag_append hname hbehind hlast, hread]

end ZoneGuard.Markup
