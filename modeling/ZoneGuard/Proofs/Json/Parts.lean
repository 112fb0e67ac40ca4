import Mathlib
import ZoneGuard.Proofs.Json.Scalars

/-!
# Reading arrays and objects

Items and members are read one after the other, with any layout before each and
before the closing bracket.  How a single value is read is left open here: it is
what the depth of nesting decides.
-/

namespace ZoneGuard.Json

open Text (isLayout)

/-- Whether the text may stand as an item or as a member: it has a first character,
which is neither layout nor a closing bracket. -/
def BeginsPart (w : List Char) : Prop :=
  ∃ c cs, w = c :: cs ∧ isLayout c = false ∧ c ≠ ']' ∧ c ≠ '\x7d'

theorem BeginsPart.ne_nil {w : List Char} (h : BeginsPart w) : w ≠ [] := by
  obtain ⟨c, cs, rfl, -⟩ := h
  exact List.cons_ne_nil c cs

def IsGap (gap : List Char) : Prop := ∀ c ∈ gap, isLayout c = true

/-- The rest of an array or object from a part on, with layout before each part and
before the bracket, unless there is no part at all. -/
def partsText (gap gapEnd : List Char) (closing : Char) : Bool → List (List Char) → List Char
  | first, [] => (if first then [] else gapEnd) ++ [closing]
  | first, w :: ws =>
    (if first then [] else [',']) ++ (gap ++ (w ++ partsText gap gapEnd closing false ws))

theorem isNumberChar_of_isLayout {c : Char} (h : isLayout c = true) : isNumberChar c = false := by
  simp only [isLayout, Bool.or_eq_true, beq_iff_eq] at h
  rcases h with ((rfl | rfl) | rfl) | rfl <;> decide

/-- What follows an item does not go on with a number. -/
theorem isNumberChar_head?_partsText {gap gapEnd : List Char} {closing : Char}
    (hgapEnd : IsGap gapEnd) (hclosing : isNumberChar closing = false) (ws : List (List Char))
    (rest : List Char) :
    ∀ c ∈ (partsText gap gapEnd closing false ws ++ rest).head?, isNumberChar c = false := by
  cases ws with
  | nil =>
      cases gapEnd with
      | nil => simpa [partsText] using hclosing
      | cons c cs => simpa [partsText] using isNumberChar_of_isLayout (hgapEnd c List.mem_cons_self)
  | cons w ws => simp [partsText, isNumberChar]

/-- What is left when there are no more parts is closed behind the layout. -/
theorem skipLayout_partsText_nil {gap gapEnd : List Char} {closing : Char} {first : Bool}
    {cur : Cursor} {rest : List Char} (hgapEnd : IsGap gapEnd)
    (hclosing : isLayout closing = false)
    (hcur : cur.rest = partsText gap gapEnd closing first [] ++ rest) :
    cur.skipLayout.rest = closing :: rest ∧
      cur.skipLayout.advance = cur.drop (partsText gap gapEnd closing first []).length := by
  have hlayout : IsGap (if first then [] else gapEnd) := by
    split
    · exact fun c hc => absurd hc List.not_mem_nil
    · exact hgapEnd
  rw [partsText, List.append_assoc, List.singleton_append] at hcur
  have hskip := Cursor.skipLayout_of_eq hcur hlayout (by simp [hclosing])
  constructor
  · exact hskip ▸ Cursor.rest_drop_of_eq hcur
  · rw [hskip, Cursor.advance_eq_drop, Cursor.drop_drop, partsText, List.length_append,
      List.length_singleton]

section

variable {value : Cursor → Read Value} {steps index : Nat} {cur after last : Cursor} {c : Char}
  {rest : List Char} {v : Value} {vs : List Value}

theorem items_close (first : Bool) (hcur : cur.skipLayout.rest = ']' :: rest) :
    items value (steps + 1) first index cur = .ok ([], cur.skipLayout.advance) := by
  rw [items.eq_def]
  simp only [hcur]

theorem items_first (hcur : cur.skipLayout.rest = c :: rest) (hc : c ≠ ']')
    (hvalue : value cur.skipLayout = .ok (v, after))
    (hmore : items value steps false (index + 1) after = .ok (vs, last)) :
    items value (steps + 1) true index cur = .ok (v :: vs, last) := by
  rw [items.eq_def]
  simp [hcur, hvalue, hmore]

theorem items_next {next : Cursor} {others : List Char}
    (hcur : cur.skipLayout.rest = ',' :: others)
    (hnext : cur.skipLayout.advance.skipLayout = next) (hrest : next.rest = c :: rest)
    (hc : c ≠ ']') (hvalue : value next = .ok (v, after))
    (hmore : items value steps false (index + 1) after = .ok (vs, last)) :
    items value (steps + 1) false index cur = .ok (v :: vs, last) := by
  rw [items.eq_def]
  simp [hcur, hnext, hrest, hc, hvalue, hmore]

end

/-- Where the item that is next begins, and that it is added to the items behind it. -/
theorem items_partsText {value : Cursor → Read Value} {gap gapEnd : List Char}
    (hgap : IsGap gap) {c : Char} {cs : List Char} (hlayout : isLayout c = false) (hc : c ≠ ']')
    {ws : List (List Char)} (first : Bool) {cur : Cursor} {rest : List Char}
    (hcur : cur.rest = partsText gap gapEnd ']' first ((c :: cs) :: ws) ++ rest) :
    ∃ n, (cur.drop n).rest = (c :: cs) ++ (partsText gap gapEnd ']' false ws ++ rest) ∧
      n + ((c :: cs).length + (partsText gap gapEnd ']' false ws).length) =
        (partsText gap gapEnd ']' first ((c :: cs) :: ws)).length ∧
      ∀ {steps index : Nat} {v : Value} {vs : List Value} {after last : Cursor},
        value (cur.drop n) = .ok (v, after) →
        items value steps false (index + 1) after = .ok (vs, last) →
        items value (steps + 1) first index cur = .ok (v :: vs, last) := by
  cases first with
  | true =>
      simp only [partsText, if_true, List.nil_append, List.append_assoc] at hcur
      have hskip := Cursor.skipLayout_of_eq hcur hgap (by simp [hlayout])
      have hstart := Cursor.rest_drop_of_eq hcur
      refine ⟨_, hstart, ?_, fun hvalue hmore => ?_⟩
      · simp only [partsText, if_true, List.nil_append, List.length_append]
      · exact items_first (hskip ▸ hstart) hc (hskip ▸ hvalue) hmore
  | false =>
      simp only [partsText, Bool.false_eq_true, if_false, List.append_assoc] at hcur
      have hskip := Cursor.skipLayout_of_rest_cons hcur (by decide)
      have hadvance : cur.advance.rest = _ := Cursor.rest_drop_of_eq hcur
      have hnext := Cursor.skipLayout_of_eq hadvance hgap (by simp [hlayout])
      have hstart := Cursor.rest_drop_of_eq hadvance
      rw [Cursor.advance_eq_drop, Cursor.drop_drop] at hstart hnext
      refine ⟨_, hstart, ?_, fun hvalue hmore => ?_⟩
      · simp only [partsText, Bool.false_eq_true, if_false, List.length_append,
          List.length_singleton]
        omega
      · exact items_next (by rw [hskip]; exact hcur) (by rw [hskip]; exact hnext) hstart hc
          hvalue hmore

/-- The items of an array are read one after the other. -/
theorem items_of_parts {value : Cursor → Read Value} {gap gapEnd : List Char} (hgap : IsGap gap)
    (hgapEnd : IsGap gapEnd) {ws : List (List Char)} {vs : List Value}
    (hparts : List.Forall₂ (fun w v => BeginsPart w ∧ Reads value w v) ws vs) :
    ∀ (first : Bool) (steps index : Nat) (cur : Cursor) (rest : List Char),
      cur.rest = partsText gap gapEnd ']' first ws ++ rest → ws.length < steps →
      items value steps first index cur =
        .ok (vs, cur.drop (partsText gap gapEnd ']' first ws).length) := by
  induction hparts with
  | nil =>
      intro first steps index cur rest hcur hsteps
      obtain ⟨steps, rfl⟩ : ∃ more, steps = more + 1 := ⟨steps - 1, by omega⟩
      obtain ⟨hclosing, hend⟩ := skipLayout_partsText_nil hgapEnd (by decide) hcur
      rw [items_close first hclosing, hend]
  | @cons w v ws vs hpart _ ih =>
      intro first steps index cur rest hcur hsteps
      obtain ⟨steps, rfl⟩ : ∃ more, steps = more + 1 := ⟨steps - 1, by omega⟩
      obtain ⟨⟨c, cs, rfl, hlayout, hbracket, -⟩, hreads⟩ := hpart
      obtain ⟨n, hstart, hlength, hitems⟩ := items_partsText hgap hlayout hbracket first hcur
      have hvalue := hreads _ _ hstart
        (isNumberChar_head?_partsText hgapEnd (by decide) ws rest)
      have hmore := ih false steps (index + 1) _ rest (Cursor.rest_drop_of_eq hstart)
        (by simpa using hsteps)
      rw [hitems hvalue hmore, Cursor.drop_drop, Cursor.drop_drop, hlength]

/-- A member as it is written, with the given space behind the colon. -/
def memberText (space : List Char) (name : String) (w : List Char) : List Char :=
  '"' :: (stringTail name ++ ':' :: (space ++ w))

section

variable {value : Cursor → Read Value} {steps : Nat} {known : List (String × Value)}
  {cur : Cursor} {rest : List Char}

theorem memberName?_close (first : Bool) (hcur : cur.skipLayout.rest = '\x7d' :: rest) :
    memberName? first cur = .ok (none, cur.skipLayout.advance) := by
  rw [memberName?.eq_def]
  simp only [hcur]

theorem memberName?_first {name : String} {gap : List Char} (hgap : IsGap gap)
    (hcur : cur.rest = gap ++ ('"' :: (stringTail name ++ rest))) :
    memberName? true cur = .ok (some name, cur.drop (gap ++ '"' :: stringTail name).length) := by
  have hskip := Cursor.skipLayout_of_eq hcur hgap (by simp [isLayout])
  have hstart := Cursor.rest_drop_of_eq hcur
  have hbody : stringBody (cur.drop gap.length).advance = _ :=
    stringBody_of_eq (by rw [Cursor.rest_advance, hstart]; rfl)
  rw [memberName?.eq_def]
  simp [hskip, hstart, hbody]
  simp only [Cursor.advance_eq_drop, Cursor.drop_drop, Nat.add_assoc, Nat.add_comm 1]

theorem memberName?_next {name : String} {gap : List Char} (hgap : IsGap gap)
    (hcur : cur.rest = ',' :: (gap ++ ('"' :: (stringTail name ++ rest)))) :
    memberName? false cur =
      .ok (some name, cur.drop (',' :: gap ++ '"' :: stringTail name).length) := by
  have hskip := Cursor.skipLayout_of_rest_cons hcur (by decide)
  have hadvance : cur.advance.rest = gap ++ ('"' :: (stringTail name ++ rest)) := by
    rw [Cursor.rest_advance, hcur]
    rfl
  have hnext := Cursor.skipLayout_of_eq hadvance hgap (by simp [isLayout])
  have hstart := Cursor.rest_drop_of_eq hadvance
  have hbody : stringBody (cur.advance.drop gap.length).advance = _ :=
    stringBody_of_eq (by rw [Cursor.rest_advance, hstart]; rfl)
  rw [memberName?.eq_def]
  simp [hskip, hcur, hnext, hstart, hbody]
  simp only [Cursor.advance_eq_drop, Cursor.drop_drop]
  congr 1
  omega

theorem members_close (first : Bool) {after : Cursor}
    (hname : memberName? first cur = .ok (none, after)) :
    members value (steps + 1) first known cur = .ok (known, after) := by
  rw [members, hname]

theorem members_step (first : Bool) {name : String} {after next : Cursor} {v : Value}
    (hname : memberName? first cur = .ok (some name, after)) (hafter : after.rest = ':' :: rest)
    (hvalue : value after.advance = .ok (v, next)) :
    members value (steps + 1) first known cur =
      members value steps false (setMember name v known) next := by
  have hskip := Cursor.skipLayout_of_rest_cons hafter (by decide)
  rw [members, hname]
  simp only [hskip, hafter, hvalue]

end

/-- The name of the member that is next, and what is left behind the name. -/
theorem memberName?_partsText {gap gapEnd space : List Char} {closing : Char} (hgap : IsGap gap)
    {name : String} {body : List Char} {ws : List (List Char)} (first : Bool) {cur : Cursor}
    {rest : List Char}
    (hcur : cur.rest =
      partsText gap gapEnd closing first (memberText space name body :: ws) ++ rest) :
    ∃ n, memberName? first cur = .ok (some name, cur.drop n) ∧
      (cur.drop n).rest =
        ':' :: (space ++ body ++ (partsText gap gapEnd closing false ws ++ rest)) ∧
      n + (1 + ((space ++ body).length + (partsText gap gapEnd closing false ws).length)) =
        (partsText gap gapEnd closing first (memberText space name body :: ws)).length := by
  cases first with
  | true =>
      simp only [partsText, memberText, if_true, List.nil_append, List.append_assoc,
        List.cons_append] at hcur
      refine ⟨_, memberName?_first hgap hcur, Cursor.rest_drop_of_eq (by simp [hcur]), ?_⟩
      simp only [partsText, memberText, if_true, List.nil_append, List.length_append,
        List.length_cons]
      omega
  | false =>
      simp only [partsText, memberText, Bool.false_eq_true, if_false, List.append_assoc,
        List.cons_append, List.nil_append] at hcur
      refine ⟨_, memberName?_next hgap hcur, Cursor.rest_drop_of_eq (by simp [hcur]), ?_⟩
      simp only [partsText, memberText, Bool.false_eq_true, if_false, List.length_append,
        List.length_cons, List.length_nil]
      omega

/-- The members of an object are read one after the other. -/
theorem members_of_parts {value : Cursor → Read Value} {gap gapEnd space : List Char}
    (hgap : IsGap gap) (hgapEnd : IsGap gapEnd) {ws : List (List Char)}
    {ms : List (String × Value)}
    (hparts : List.Forall₂ (fun w m => ∃ body, w = memberText space m.1 body ∧
      Reads value (space ++ body) m.2) ws ms) :
    ∀ (first : Bool) (steps : Nat) (known : List (String × Value)) (cur : Cursor)
      (rest : List Char),
      cur.rest = partsText gap gapEnd '\x7d' first ws ++ rest → ws.length < steps →
      members value steps first known cur =
        .ok (ms.foldl (fun known m => setMember m.1 m.2 known) known,
          cur.drop (partsText gap gapEnd '\x7d' first ws).length) := by
  induction hparts with
  | nil =>
      intro first steps known cur rest hcur hsteps
      obtain ⟨steps, rfl⟩ : ∃ more, steps = more + 1 := ⟨steps - 1, by omega⟩
      obtain ⟨hclosing, hend⟩ := skipLayout_partsText_nil hgapEnd (by decide) hcur
      rw [members_close first (memberName?_close first hclosing), hend, List.foldl_nil]
  | @cons w m ws ms hpart _ ih =>
      intro first steps known cur rest hcur hsteps
      obtain ⟨steps, rfl⟩ : ∃ more, steps = more + 1 := ⟨steps - 1, by omega⟩
      obtain ⟨body, rfl, hreads⟩ := hpart
      obtain ⟨n, hname, hafter, hlength⟩ := memberName?_partsText hgap first hcur
      have hadvance : (cur.drop n).advance.rest =
          space ++ body ++ (partsText gap gapEnd '\x7d' false ws ++ rest) := by
        rw [Cursor.rest_advance, hafter, List.tail_cons]
      have hvalue := hreads _ _ hadvance
        (isNumberChar_head?_partsText hgapEnd (by decide) ws rest)
      have hmore := ih false steps (setMember m.1 m.2 known) _ rest
        (Cursor.rest_drop_of_eq hadvance) (by simpa using hsteps)
      rw [members_step first hname hafter hvalue, hmore, List.foldl_cons,
        Cursor.advance_eq_drop, Cursor.drop_drop, Cursor.drop_drop, Cursor.drop_drop, ← hlength]

theorem length_lt_partsText (gap gapEnd : List Char) (closing : Char) (first : Bool)
    {ws : List (List Char)} (h : ∀ w ∈ ws, w ≠ []) :
    ws.length < (partsText gap gapEnd closing first ws).length := by
  induction ws generalizing first with
  | nil => simp [partsText]
  | cons w ws ih =>
      have hw := List.length_pos_iff.2 (h w List.mem_cons_self)
      have hws := ih false fun w hw => h w (List.mem_cons_of_mem _ hw)
      simp only [partsText, List.length_append, List.length_cons]
      omega

end ZoneGuard.Json
