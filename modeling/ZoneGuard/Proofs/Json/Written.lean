import Mathlib
import ZoneGuard.Proofs.Json.Order
import ZoneGuard.Proofs.Json.Parts

/-!
# Written JSON is read back

The compact form and the indented form differ in layout alone.  Texts with any
layout between the parts of arrays and objects are read as the value that was
written, its members in the order of their names, so both forms are.
-/

namespace ZoneGuard.Json

open Text (isLayout)

/-! ## Reading values -/

/-- The value is read for the text behind any layout, at the given depth. -/
structure ReadsValue (depth : Nat) (w : List Char) (v : Value) : Prop where
  begins : BeginsPart w
  reads : ∀ gap, IsGap gap → Reads (value depth) (gap ++ w) v

/-- A value may be read from where its first character stands. -/
theorem readsValue_of_start {depth : Nat} {w : List Char} {v : Value} (hbegins : BeginsPart w)
    (h : ∀ (cur start : Cursor) (rest : List Char), cur.skipLayout = start →
      start.rest = w ++ rest → (∀ c ∈ rest.head?, isNumberChar c = false) →
        value depth cur = .ok (v, start.drop w.length)) : ReadsValue depth w v := by
  refine ⟨hbegins, fun gap hgap cur rest hcur hrest => ?_⟩
  rw [List.append_assoc] at hcur
  have hskip : cur.skipLayout = cur.drop gap.length := by
    obtain ⟨c, cs, rfl, hlayout, -⟩ := hbegins
    exact Cursor.skipLayout_of_eq hcur hgap (by simp [hlayout])
  rw [List.length_append, ← Cursor.drop_drop]
  exact h cur _ rest hskip (Cursor.rest_drop_of_eq hcur) hrest

theorem rest_advance_of_eq {start : Cursor} {c : Char} {cs rest : List Char}
    (h : start.rest = (c :: cs) ++ rest) : start.advance.rest = cs ++ rest := by
  rw [Cursor.rest_advance, h, List.cons_append, List.tail_cons]

theorem readsValue_word {depth : Nat} {c : Char} {cs : List Char} {v : Value}
    (hbegins : BeginsPart (c :: cs))
    (hstep : ∀ (cur start : Cursor) (rest : List Char), cur.skipLayout = start →
      start.rest = c :: rest → value depth cur = word v cs start.advance) :
    ReadsValue depth (c :: cs) v := by
  refine readsValue_of_start hbegins fun cur start rest hskip hstart hrest => ?_
  rw [hstep cur start (cs ++ rest) hskip hstart]
  exact reads_word v cs start.advance rest (rest_advance_of_eq hstart) hrest

theorem readsValue_null (depth : Nat) : ReadsValue depth "null".toList .null := by
  refine readsValue_word ⟨'n', _, rfl, by decide, by decide, by decide⟩ ?_
  intro cur start rest hskip hstart
  rw [value.eq_def]
  simp only [hskip, hstart]
  rfl

theorem readsValue_bool (depth : Nat) (b : Bool) :
    ReadsValue depth (if b then "true" else "false").toList (.bool b) := by
  cases b with
  | false =>
      refine readsValue_word ⟨'f', _, rfl, by decide, by decide, by decide⟩ ?_
      intro cur start rest hskip hstart
      rw [value.eq_def]
      simp only [hskip, hstart]
      rfl
  | true =>
      refine readsValue_word ⟨'t', _, rfl, by decide, by decide, by decide⟩ ?_
      intro cur start rest hskip hstart
      rw [value.eq_def]
      simp only [hskip, hstart]
      rfl

theorem readsValue_string (depth : Nat) (s : String) :
    ReadsValue depth ('"' :: stringTail s) (.string s) := by
  refine readsValue_of_start ⟨'"', _, rfl, by decide, by decide, by decide⟩ ?_
  intro cur start rest hskip hstart _
  have hbody := stringBody_of_eq (rest_advance_of_eq hstart)
  rw [value.eq_def]
  simp only [hskip, hstart, List.cons_append, hbody]
  rfl

/-- The characters at which no number begins, but another value, layout or a bracket. -/
def otherStarts : List Char :=
  ['n', 't', 'f', '-', '"', '[', '\x7b', ']', '\x7d', ' ', '\t', '\r', '\n']

theorem digit_ne {c : Char} (hc : c.isDigit = true) : ∀ d ∈ otherStarts, c ≠ d := by
  have hnone : otherStarts.all (fun d => !d.isDigit) = true := rfl
  rintro d hd rfl
  have hnot := List.all_eq_true.1 hnone c hd
  rw [hc] at hnot
  cases hnot

theorem value_of_isDigit {depth : Nat} {cur start after : Cursor} {n : Number} {c : Char}
    {rest : List Char} (hskip : cur.skipLayout = start) (hstart : start.rest = c :: rest)
    (hc : c.isDigit = true) (hnumber : number start false = .ok (n, after)) :
    value depth cur = .ok (.number n, after) := by
  have hne := digit_ne hc
  rw [value.eq_def]
  simp only [hskip, hstart]
  split
  · next h => cases h
  · next h => exact absurd (List.cons.inj h).1 (hne 'n' (by decide))
  · next h => exact absurd (List.cons.inj h).1 (hne 't' (by decide))
  · next h => exact absurd (List.cons.inj h).1 (hne 'f' (by decide))
  · next h => exact absurd (List.cons.inj h).1 (hne '-' (by decide))
  · next h => exact absurd (List.cons.inj h).1 (hne '"' (by decide))
  · next h => exact absurd (List.cons.inj h).1 (hne '[' (by decide))
  · next h => exact absurd (List.cons.inj h).1 (hne '\x7b' (by decide))
  · next h =>
    obtain ⟨rfl, -⟩ := List.cons.inj h
    rw [if_pos hc, hnumber]

/-- A natural number of 64 bits is read as itself. -/
theorem readsValue_natural (depth : Nat) {n : Nat} (hn : n < UInt64.size) :
    ReadsValue depth (Nat.toDigits 10 n) (.ofNat n) := by
  obtain ⟨c, cs, hdigits⟩ := List.exists_cons_of_ne_nil (Nat.toDigits_ne_nil (n := n) (b := 10))
  have hc : c.isDigit = true :=
    Nat.isDigit_of_mem_toDigits (by omega) (by omega) (hdigits ▸ List.mem_cons_self)
  have hne := digit_ne hc
  have hlayout : isLayout c = false := by
    rw [Bool.eq_false_iff]
    intro h
    simp only [isLayout, Bool.or_eq_true, beq_iff_eq] at h
    rcases h with ((h | h) | h) | h <;> exact hne _ (by decide) h
  refine readsValue_of_start
    ⟨c, cs, hdigits, hlayout, hne ']' (by decide), hne '\x7d' (by decide)⟩ ?_
  intro cur start rest hskip hstart hrest
  have hcons : start.rest = c :: (cs ++ rest) := by rw [hstart, hdigits, List.cons_append]
  exact value_of_isDigit hskip hcons hc (reads_number hn start rest hstart hrest)

/-- An array is read from its items, with any layout around them. -/
theorem readsValue_array {depth : Nat} {gap gapEnd : List Char} (hgap : IsGap gap)
    (hgapEnd : IsGap gapEnd) {ws : List (List Char)} {vs : List Value}
    (hreads : List.Forall₂ (ReadsValue depth) ws vs) :
    ReadsValue (depth + 1) ('[' :: partsText gap gapEnd ']' true ws) (.array vs) := by
  refine readsValue_of_start ⟨'[', _, rfl, by decide, by decide, by decide⟩ ?_
  intro cur start rest hskip hstart _
  have hparts : List.Forall₂ (fun w v => BeginsPart w ∧ Reads (value depth) w v) ws vs :=
    hreads.imp fun w v h => ⟨h.begins, h.reads [] (by simp [IsGap])⟩
  have hbegins := ((List.forall₂_and_left ..).1 hparts).1
  have hlength := length_lt_partsText gap gapEnd ']' true fun w hw => (hbegins w hw).ne_nil
  have hsteps : ws.length < start.rest.length + 1 := by
    rw [hstart, List.length_append, List.length_cons]
    omega
  have hitems := items_of_parts hgap hgapEnd hparts true _ 0 start.advance rest
    (rest_advance_of_eq hstart) hsteps
  rw [value.eq_def]
  simp only [hskip, hstart, List.cons_append] at hitems ⊢
  rw [hitems]
  rfl

/-- An object is read from its members, with any layout around them. -/
theorem readsValue_object {depth : Nat} {gap gapEnd space : List Char} (hgap : IsGap gap)
    (hgapEnd : IsGap gapEnd) (hspace : IsGap space) {ws : List (List Char)}
    {ms : List (String × Value)} (hreads : List.Forall₂ (fun w m => ∃ body,
      w = memberText space m.1 body ∧ ReadsValue depth body m.2) ws ms) :
    ReadsValue (depth + 1) ('\x7b' :: partsText gap gapEnd '\x7d' true ws)
      (.object (ms.foldl (fun known m => setMember m.1 m.2 known) [])) := by
  refine readsValue_of_start ⟨'\x7b', _, rfl, by decide, by decide, by decide⟩ ?_
  intro cur start rest hskip hstart _
  have hparts : List.Forall₂ (fun w m => ∃ body, w = memberText space m.1 body ∧
      Reads (value depth) (space ++ body) m.2) ws ms :=
    hreads.imp fun w m ⟨body, hw, hbody⟩ => ⟨body, hw, hbody.reads space hspace⟩
  have hne : ∀ w ∈ ws, w ≠ [] := by
    have hpair : List.Forall₂ (fun w m => w ≠ [] ∧ True) ws ms :=
      hreads.imp fun w m ⟨body, hw, _⟩ => ⟨hw ▸ List.cons_ne_nil _ _, trivial⟩
    exact ((List.forall₂_and_left ..).1 hpair).1
  have hlength := length_lt_partsText gap gapEnd '\x7d' true hne
  have hsteps : ws.length < start.rest.length + 1 := by
    rw [hstart, List.length_append, List.length_cons]
    omega
  have hmembers := members_of_parts hgap hgapEnd hparts true _ [] start.advance rest
    (rest_advance_of_eq hstart) hsteps
  rw [value.eq_def]
  simp only [hskip, hstart, List.cons_append] at hmembers ⊢
  rw [hmembers]
  rfl

/-! ## Written values -/

/-- Whether the value can be read again from what is written for it: arrays and
objects are nested no deeper than the given depth, no object has two members of one
name, and numbers are natural and of 64 bits at most. -/
def IsReadable : Nat → Value → Prop
  | _, .null | _, .bool _ | _, .string _ => True
  | _, .number n => ∃ k : Nat, k < UInt64.size ∧ n = .integer k
  | 0, .array _ | 0, .object _ => False
  | depth + 1, .array vs => ∀ v ∈ vs, IsReadable depth v
  | depth + 1, .object ms => (ms.map (·.1)).Nodup ∧ ∀ m ∈ ms, IsReadable depth m.2

theorem IsReadable.sorted {depth : Nat} {v : Value} (h : IsReadable depth v) :
    IsReadable depth v.sorted := by
  induction depth generalizing v with
  | zero => cases v <;> exact h
  | succ depth ih =>
      cases v with
      | array vs =>
          rw [Value.sorted, sortedItems_eq_map]
          intro v hv
          obtain ⟨v, hmem, rfl⟩ := List.mem_map.1 hv
          exact ih (h v hmem)
      | object ms =>
          refine ⟨List.pairwise_map.2 ((isAscending_sortedMembers ms).imp fun hlt => hlt.ne),
            fun m hm => ?_⟩
          obtain ⟨m, hmem, rfl⟩ := exists_of_mem_sortedMembers hm
          exact ih (h.2 m hmem)
      | _ => exact h

/-- What is in order stays as it is. -/
theorem IsReadable.sorted_sorted {depth : Nat} {v : Value} (h : IsReadable depth v) :
    v.sorted.sorted = v.sorted := by
  induction depth generalizing v with
  | zero =>
      cases v with
      | array vs => exact h.elim
      | object ms => exact h.elim
      | _ => rfl
  | succ depth ih =>
      cases v with
      | array vs =>
          rw [Value.sorted, Value.sorted, sortedItems_eq_map, sortedItems_eq_map, List.map_map]
          exact congrArg Value.array (List.map_congr_left fun v hv => ih (h v hv))
      | object ms =>
          rw [Value.sorted, Value.sorted, (isAscending_sortedMembers ms).sortedMembers_eq_map]
          refine congrArg Value.object ((List.map_congr_left fun m hm => ?_).trans (List.map_id _))
          obtain ⟨m, hmem, rfl⟩ := exists_of_mem_sortedMembers hm
          rw [ih (h.2 m hmem)]
          rfl
      | _ => rfl

/-- Whether the value is no array and no object. -/
def Value.isScalar : Value → Bool
  | .array _ | .object _ => false
  | _ => true

/-- A way of writing values at any level, with some layout between the parts of arrays
and objects. -/
structure IsLayoutOf (write : Nat → Value → String) : Prop where
  scalar : ∀ level v, v.isScalar = true → write level v = v.compact
  array : ∀ level vs, ∃ gap gapEnd, IsGap gap ∧ IsGap gapEnd ∧
    (write level (.array vs)).toList = '[' :: partsText gap gapEnd ']' true
      (vs.map fun v => (write (level + 1) v).toList)
  object : ∀ level ms, ∃ gap gapEnd space, IsGap gap ∧ IsGap gapEnd ∧ IsGap space ∧
    (write level (.object ms)).toList = '\x7b' :: partsText gap gapEnd '\x7d' true
      (ms.map fun m => memberText space m.1 (write (level + 1) m.2).toList)

theorem readsValue_scalar {depth : Nat} {v : Value} (h : IsReadable depth v)
    (hscalar : v.isScalar = true) : ReadsValue depth v.compact.toList v.sorted := by
  cases v with
  | null => exact readsValue_null depth
  | bool b =>
      have hb := readsValue_bool depth b
      cases b <;> exact hb
  | number n =>
      obtain ⟨k, hk, rfl⟩ : ∃ k : Nat, k < UInt64.size ∧ n = .integer k := by
        cases depth <;> exact h
      have htext : (Value.number (.integer k)).compact = toString k := rfl
      rw [htext, Nat.toString_eq_ofList_toDigits, String.toList_ofList]
      exact readsValue_natural depth hk
  | string s =>
      rw [Value.compact, toList_stringText]
      exact readsValue_string depth s
  | array vs => cases hscalar
  | object ms => cases hscalar

/-- What is written for a value is read as the value, members in order. -/
theorem readsValue_write {write : Nat → Value → String} (hwrite : IsLayoutOf write)
    {depth : Nat} {v : Value} (h : IsReadable depth v) (level : Nat) :
    ReadsValue depth (write level v).toList v.sorted := by
  have hscalar : ∀ {depth v} (level : Nat), IsReadable depth v → v.isScalar = true →
      ReadsValue depth (write level v).toList v.sorted := by
    intro depth v level h hscalar
    rw [hwrite.scalar level v hscalar]
    exact readsValue_scalar h hscalar
  induction depth generalizing v level with
  | zero =>
      cases v with
      | array vs => exact h.elim
      | object ms => exact h.elim
      | _ => exact hscalar level h rfl
  | succ depth ih =>
      cases v with
      | array vs =>
          obtain ⟨gap, gapEnd, hgap, hgapEnd, htext⟩ := hwrite.array level vs
          rw [htext, Value.sorted, sortedItems_eq_map]
          refine readsValue_array hgap hgapEnd ?_
          rw [List.forall₂_map_left_iff, List.forall₂_map_right_iff, List.forall₂_same]
          exact fun v hv => ih (h v hv) (level + 1)
      | object ms =>
          obtain ⟨gap, gapEnd, space, hgap, hgapEnd, hspace, htext⟩ := hwrite.object level ms
          rw [htext, Value.sorted, ← foldl_sorted_eq_sortedMembers h.1]
          refine readsValue_object hgap hgapEnd hspace ?_
          rw [List.forall₂_map_left_iff, List.forall₂_map_right_iff, List.forall₂_same]
          exact fun m hm => ⟨_, rfl, ih (h.2 m hm) (level + 1)⟩
      | _ => exact hscalar level h rfl

theorem partsText_false_cons (gap gapEnd : List Char) (closing : Char) (w : List Char)
    (ws : List (List Char)) : partsText gap gapEnd closing false (w :: ws) =
      ',' :: partsText gap gapEnd closing true (w :: ws) := rfl

/-- Parts that are joined by commas are parts with gaps between them. -/
theorem toList_intercalate_parts (gap gapEnd : String) (closing : Char) {parts : List String}
    (hne : parts ≠ []) :
    (",".intercalate (parts.map (gap ++ ·))).toList ++ (gapEnd.toList ++ [closing]) =
      partsText gap.toList gapEnd.toList closing true (parts.map String.toList) := by
  induction parts with
  | nil => exact absurd rfl hne
  | cons part parts ih =>
      cases parts with
      | nil => simp [partsText]
      | cons next parts =>
          have hrest := ih (List.cons_ne_nil _ _)
          rw [List.map_cons] at hrest
          rw [List.map_cons, List.map_cons, String.intercalate_cons_cons, List.map_cons, partsText,
            List.map_cons, partsText_false_cons]
          rw [List.map_cons] at hrest
          rw [← hrest]
          simp

theorem compactItems_eq_map (vs : List Value) : compactItems vs = vs.map Value.compact := by
  induction vs with
  | nil => rfl
  | cons v vs ih => rw [compactItems, ih, List.map_cons]

theorem compactMembers_eq_map (ms : List (String × Value)) :
    compactMembers ms = ms.map fun m => stringText m.1 ++ ":" ++ m.2.compact := by
  induction ms with
  | nil => rfl
  | cons m ms ih => rw [compactMembers, ih, List.map_cons]

theorem indentedItems_eq_map (level : Nat) (vs : List Value) :
    indentedItems level vs = vs.map (Value.indented level) := by
  induction vs with
  | nil => rfl
  | cons v vs ih => rw [indentedItems, ih, List.map_cons]

theorem indentedMembers_eq_map (level : Nat) (ms : List (String × Value)) :
    indentedMembers level ms = ms.map fun m => stringText m.1 ++ ": " ++ m.2.indented level := by
  induction ms with
  | nil => rfl
  | cons m ms ih => rw [indentedMembers, ih, List.map_cons]

theorem toList_bracketed (opening closing : Char) (parts : List String) :
    (bracketed (String.singleton opening) (String.singleton closing) parts).toList =
      opening :: partsText [] [] closing true (parts.map String.toList) := by
  cases parts with
  | nil => simp [bracketed, partsText]
  | cons part parts =>
      have hparts := toList_intercalate_parts "" "" closing (List.cons_ne_nil part parts)
      simp at hparts
      simp [bracketed, hparts]

/-- Written without layout, the gaps are empty. -/
theorem isLayoutOf_compact : IsLayoutOf fun _ => Value.compact where
  scalar _ _ _ := rfl
  array level vs := by
    refine ⟨[], [], by simp [IsGap], by simp [IsGap], ?_⟩
    rw [Value.compact, compactItems_eq_map]
    exact (toList_bracketed '[' ']' _).trans (by rw [List.map_map]; rfl)
  object level ms := by
    refine ⟨[], [], [], by simp [IsGap], by simp [IsGap], by simp [IsGap], ?_⟩
    rw [Value.compact, compactMembers_eq_map]
    refine (toList_bracketed '\x7b' '\x7d' _).trans ?_
    have htexts : ∀ m : String × Value, (stringText m.1 ++ ":" ++ m.2.compact).toList =
        memberText [] m.1 m.2.compact.toList := by
      intro m
      simp [toList_stringText, memberText]
    rw [List.map_map]
    exact congrArg (fun ws => '\x7b' :: partsText [] [] '\x7d' true ws)
      (List.map_congr_left fun m _ => htexts m)

theorem toList_indentedBlock (opening closing : Char) (level : Nat) (parts : List String) :
    (indentedBlock (String.singleton opening) (String.singleton closing) level parts).toList =
      opening :: partsText (lineBreak (level + 1)).toList (lineBreak level).toList closing true
        (parts.map String.toList) := by
  cases parts with
  | nil => simp [indentedBlock, partsText]
  | cons part parts =>
      have hparts := toList_intercalate_parts (lineBreak (level + 1)) (lineBreak level) closing
        (List.cons_ne_nil part parts)
      rw [indentedBlock, if_neg (by simp), ← hparts]
      simp

theorem isGap_lineBreak (level : Nat) : IsGap (lineBreak level).toList := by
  intro c hc
  simp only [lineBreak, String.toList_ofList, List.mem_cons, List.mem_replicate] at hc
  rcases hc with rfl | ⟨-, rfl⟩ <;> decide

/-- Written over several lines, the gaps are line breaks with blanks. -/
theorem isLayoutOf_indented : IsLayoutOf Value.indented where
  scalar level v hscalar := by
    cases v with
    | array vs => cases hscalar
    | object ms => cases hscalar
    | _ => rfl
  array level vs := by
    refine ⟨_, _, isGap_lineBreak (level + 1), isGap_lineBreak level, ?_⟩
    rw [Value.indented, indentedItems_eq_map]
    exact (toList_indentedBlock '[' ']' level _).trans (by rw [List.map_map]; rfl)
  object level ms := by
    refine ⟨_, _, [' '], isGap_lineBreak (level + 1), isGap_lineBreak level,
      by simp [IsGap, isLayout], ?_⟩
    rw [Value.indented, indentedMembers_eq_map]
    refine (toList_indentedBlock '\x7b' '\x7d' level _).trans ?_
    have htexts : ∀ m : String × Value,
        (stringText m.1 ++ ": " ++ m.2.indented (level + 1)).toList =
          memberText [' '] m.1 (m.2.indented (level + 1)).toList := by
      intro m
      simp [toList_stringText, memberText]
    rw [List.map_map]
    exact congrArg (fun ws => '\x7b' :: partsText _ _ '\x7d' true ws)
      (List.map_congr_left fun m _ => htexts m)

/-! ## Documents -/

theorem parse_of_readsValue {s : String} {w : List Char} (gap : List Char) {v : Value}
    (h : ReadsValue maxDepth w v) (hs : s.toList = w ++ gap) (hgap : IsGap gap) :
    parse s = .ok v := by
  have hcur : (Cursor.ofText s).rest = [] ++ w ++ gap := hs
  have hnumber : ∀ c ∈ gap.head?, isNumberChar c = false :=
    fun c hc => isNumberChar_of_isLayout (hgap c (List.mem_of_head? hc))
  have hread := h.reads [] (by simp [IsGap]) _ gap hcur hnumber
  have hbehind : (Cursor.drop ([] ++ w).length (Cursor.ofText s)).rest = gap ++ [] := by
    rw [Cursor.rest_drop_of_eq hcur, List.append_nil]
  have hskip := Cursor.skipLayout_of_eq hbehind hgap (by simp)
  have hend := Cursor.rest_drop_of_eq hbehind
  simp only [parse, hread, hskip, hend, List.isEmpty_nil, if_true]

/-- What is written without layout is read as the value, its members in order. -/
theorem parse_compact {v : Value} (h : IsReadable maxDepth v) : parse v.compact = .ok v.sorted :=
  parse_of_readsValue [] (readsValue_write isLayoutOf_compact h 0) (List.append_nil _).symm
    (by simp [IsGap])

/-- What is written over several lines is read as the value, its members in order. -/
theorem parse_pretty {v : Value} (h : IsReadable maxDepth v) :
    parse (v.pretty ++ "\n") = .ok v.sorted := by
  refine parse_of_readsValue ['\n'] (readsValue_write isLayoutOf_indented h 0) ?_ ?_
  · rw [String.toList_append, Value.pretty]
    rfl
  · simp [IsGap, isLayout]

end ZoneGuard.Json
