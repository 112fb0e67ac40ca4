import Mathlib
import ZoneGuard.Json.Bytes
import ZoneGuard.Proofs.Json.Scalars
import ZoneGuard.Proofs.Markup.ValueText

/-!
# Reading bytes

Bytes that encode a text denote what the text denotes, and other bytes denote nothing:
their fault is read as a control character, and what is read has none but layout.
-/

namespace ZoneGuard

theorem Text.decode?_encode (s : String) : decode? (encode s) = some s := by
  have hbytes : (encode s).toByteArray = s.toByteArray := by
    rw [encode, ← String.ofList_toList (s := s), String.toByteArray_ofList, List.utf8Encode,
      String.toList_ofList]
  rw [decode?, hbytes, String.fromUTF8?, dif_pos s.isValidUTF8]
  rfl

namespace Json

open Text (isLayout)

theorem parseBytes_encode (s : String) : parseBytes (Text.encode s) = parse s := by
  rw [parseBytes, Text.decode?_encode]

/-! ## Characters that may be read -/

/-- Layout, or no control character. -/
def IsWritten (c : Char) : Prop := isLayout c = true ∨ 0x20 ≤ c.toNat

instance : DecidablePred IsWritten := fun _ => inferInstanceAs (Decidable (_ ∨ _))

theorem isWritten_of_isDigit {c : Char} (h : c.isDigit = true) : IsWritten c := by
  have hdigit : '0' ≤ c := by
    simp only [Char.isDigit, Bool.and_eq_true, decide_eq_true_eq] at h
    exact h.1
  exact .inr (le_trans (by decide) hdigit)

theorem digit?_of_not_isWritten (base : Nat) {c : Char} (hc : ¬ IsWritten c) :
    digit? base c = none := by
  have hlow : c < ' ' := not_le.1 fun hle => hc (.inr hle)
  have hbelow (d : Char) (hd : ' ' ≤ d) : ¬ d ≤ c := not_le.2 (lt_of_lt_of_le hlow hd)
  have hdigit : c.isDigit ≠ true := fun hdigit => hc (isWritten_of_isDigit hdigit)
  simp [digit?, hdigit, hbelow 'a' (by decide), hbelow 'A' (by decide)]

theorem isWritten_of_ofDigits? {base n : Nat} {cs : List Char} (h : ofDigits? base cs = some n)
    {c : Char} (hc : c ∈ cs) : IsWritten c := by
  by_contra hcontrol
  exact (ofDigits?_eq_some_iff.1 h).notMem (digit?_of_not_isWritten base hcontrol) hc

namespace Cursor

/-- Reading has passed from one place to a later one, over characters that may be read. -/
def Passes (cur after : Cursor) : Prop :=
  ∃ w, cur.rest = w ++ after.rest ∧ ∀ c ∈ w, IsWritten c

namespace Passes

variable {cur between after : Cursor}

theorem refl (cur : Cursor) : cur.Passes cur := ⟨[], rfl, by simp⟩

theorem trans (h : cur.Passes between) (h' : between.Passes after) : cur.Passes after := by
  obtain ⟨w, hw, hwritten⟩ := h
  obtain ⟨w', hw', hwritten'⟩ := h'
  refine ⟨w ++ w', by rw [hw, hw', List.append_assoc], fun c hc => ?_⟩
  exact (List.mem_append.1 hc).elim (hwritten c) (hwritten' c)

end Passes

theorem passes_drop {cur : Cursor} {n : Nat} (h : ∀ c ∈ cur.rest.take n, IsWritten c) :
    cur.Passes (cur.drop n) :=
  ⟨cur.rest.take n, by rw [rest_drop, List.take_append_drop], h⟩

theorem passes_advance {cur : Cursor} {c : Char} {cs : List Char} (hcur : cur.rest = c :: cs)
    (hc : IsWritten c) : cur.Passes cur.advance :=
  passes_drop (n := 1) (by simpa [hcur] using hc)

theorem Passes.of_advance {cur after : Cursor} {c : Char} {cs : List Char}
    (hcur : cur.rest = c :: cs) (hc : IsWritten c) (h : cur.advance.Passes after) :
    cur.Passes after :=
  (passes_advance hcur hc).trans h

theorem passes_drop_takeWhile {p : Char → Bool} (cur : Cursor)
    (hp : ∀ c, p c = true → IsWritten c) :
    cur.Passes (cur.drop (cur.rest.takeWhile p).length) := by
  refine passes_drop fun c hc => hp c ?_
  rw [← List.prefix_iff_eq_take.1 (List.takeWhile_prefix p)] at hc
  exact List.mem_takeWhile_imp hc

theorem passes_skipLayout (cur : Cursor) : cur.Passes cur.skipLayout :=
  passes_drop_takeWhile cur fun _ => .inl

end Cursor

/-! ## Readers -/

section

variable {cur after : Cursor} {c : Char} {cs : List Char}

theorem passes_takeDigits (cur : Cursor) : cur.Passes (takeDigits cur).2 :=
  Cursor.passes_drop_takeWhile cur fun _ => isWritten_of_isDigit

theorem eq_of_floatOf_eq_ok {negative : Bool} {significand : Nat} {scale : Int} {n : Number}
    (h : floatOf cur negative significand scale = .ok (n, after)) : after = cur := by
  unfold floatOf at h
  split at h
  · cases h
    rfl
  · cases h

theorem passes_takeSign (cur : Cursor) : cur.Passes (takeSign cur).2 := by
  unfold takeSign
  split
  · next hcur => exact Cursor.passes_advance hcur (by decide)
  · next hcur => exact Cursor.passes_advance hcur (by decide)
  · exact .refl cur

theorem passes_exponent {negative : Bool} {significand : Nat} {scale : Int} {n : Number}
    (hcur : cur.rest = c :: cs) (hc : IsWritten c)
    (h : exponent cur negative significand scale = .ok (n, after)) : cur.Passes after := by
  have hbegin := (Cursor.passes_advance hcur hc).trans (passes_takeSign cur.advance)
  have hdigits := hbegin.trans (passes_takeDigits _)
  unfold exponent at h
  simp only at h
  split at h
  · split at h <;> cases h
  · split at h
    · cases eq_of_floatOf_eq_ok h
      exact hdigits
    · split at h
      · cases h
      · cases h
        exact hdigits

theorem passes_afterFraction {negative : Bool} {significand : Nat} {scale : Int} {n : Number}
    (h : afterFraction cur negative significand scale = .ok (n, after)) : cur.Passes after := by
  unfold afterFraction at h
  split at h
  · next hcur => exact passes_exponent hcur (by decide) h
  · next hcur => exact passes_exponent hcur (by decide) h
  · cases eq_of_floatOf_eq_ok h
    exact .refl cur

theorem passes_fraction {negative : Bool} {significand : Nat} {scale : Int} {n : Number}
    (hcur : cur.rest = c :: cs) (hc : IsWritten c)
    (h : fraction cur negative significand scale = .ok (n, after)) : cur.Passes after := by
  refine (Cursor.passes_advance hcur hc).trans ((passes_takeDigits _).trans ?_)
  unfold fraction at h
  simp only at h
  split at h
  · split at h <;> cases h
  · exact passes_afterFraction h

/-- A number is passed over with its fraction and exponent. -/
theorem passes_number {negative : Bool} {n : Number}
    (h : number cur negative = .ok (n, after)) : cur.Passes after := by
  refine (passes_takeDigits cur).trans ?_
  unfold number at h
  simp only at h
  split at h
  · split at h <;> cases h
  · cases h
  · split at h
    · next hpoint => exact passes_fraction hpoint (by decide) h
    · next hletter => exact passes_exponent hletter (by decide) h
    · next hletter => exact passes_exponent hletter (by decide) h
    · split_ifs at h
      · cases eq_of_floatOf_eq_ok h
        exact .refl _
      · cases h
        exact .refl _
      · cases eq_of_floatOf_eq_ok h
        exact .refl _
      · cases h
        exact .refl _

/-! ### Strings -/

theorem passes_fourHex {unit : Nat} (h : fourHex cur = .ok (unit, after)) : cur.Passes after := by
  unfold fourHex at h
  split at h
  · next a b c d rest hcur =>
    split at h
    · next hunit =>
      cases h
      refine Cursor.passes_drop fun e he => ?_
      simp only [hcur, List.take_succ_cons, List.take_zero] at he
      exact isWritten_of_ofDigits? hunit he
    · cases h
  · split at h <;> cases h

theorem passes_lowSurrogate {high : Nat} {c : Char} (h : lowSurrogate high cur = .ok (c, after)) :
    cur.Passes after := by
  unfold lowSurrogate at h
  split at h
  · cases h
  · cases h
  · next hcur =>
    split at h
    · cases h
    · next hfour =>
      split at h
      · cases h
      · simp only [Except.ok.injEq, Prod.mk.injEq] at h
        obtain ⟨-, rfl⟩ := h
        refine (Cursor.passes_drop ?_).trans (passes_fourHex hfour)
        simp [hcur, IsWritten]
  · cases h
  · cases h

theorem passes_unicodeEscape {c : Char} (h : unicodeEscape cur = .ok (c, after)) :
    cur.Passes after := by
  unfold unicodeEscape at h
  split at h
  · cases h
  · next hfour =>
    refine (passes_fourHex hfour).trans ?_
    split_ifs at h
    · cases h
      exact .refl _
    · exact passes_lowSurrogate h

theorem passes_escape {c : Char} (h : escape cur = .ok (c, after)) : cur.Passes after := by
  unfold escape at h
  split at h
  case h_10 =>
    next hcur =>
    exact .of_advance hcur (by decide) (passes_unicodeEscape h)
  all_goals
    first
    | cases h
      exact Cursor.passes_advance ‹_› (by decide)
    | cases h

/-- A string is passed over up to its closing quote. -/
theorem passes_stringBody_go {steps : Nat} {taken : List Char} {s : String}
    (h : stringBody.go steps taken cur = .ok (s, after)) : cur.Passes after := by
  induction steps generalizing taken cur with
  | zero => cases h
  | succ steps ih =>
      unfold stringBody.go at h
      split at h
      · cases h
      · next hcur =>
        cases h
        exact Cursor.passes_advance hcur (by decide)
      · next hcur =>
        split at h
        · cases h
        · next hescape =>
          exact .of_advance hcur (by decide) ((passes_escape hescape).trans (ih h))
      · next hcur =>
        split_ifs at h with hcontrol
        exact .of_advance hcur (.inr (not_lt.1 hcontrol)) (ih h)

theorem passes_word {v v' : Value} {w : List Char} (hw : ∀ c ∈ w, IsWritten c)
    (h : word v w cur = .ok (v', after)) : cur.Passes after := by
  induction w generalizing cur with
  | nil =>
      cases h
      exact .refl _
  | cons c w ih =>
      unfold word at h
      split at h
      · cases h
      · next hcur =>
        split_ifs at h with hc
        exact .of_advance hcur (hc ▸ hw c List.mem_cons_self)
          (ih (fun c hc => hw c (List.mem_cons_of_mem _ hc)) h)

/-! ### Parts -/

/-- The reader passes over what it reads. -/
def Passing {α : Type} (read : Cursor → Read α) : Prop :=
  ∀ {cur after : Cursor} {a : α}, read cur = .ok (a, after) → cur.Passes after

/-- An array passes over its items and what separates them. -/
theorem passes_items {value : Cursor → Read Value} (hvalue : Passing value) {steps : Nat}
    {first : Bool} {index : Nat} {vs : List Value}
    (h : items value steps first index cur = .ok (vs, after)) : cur.Passes after := by
  induction steps generalizing first index cur vs with
  | zero => cases h
  | succ steps ih =>
      refine (Cursor.passes_skipLayout cur).trans ?_
      unfold items at h
      extract_lets cur item at h
      have hitem (start : Cursor) (hstart : item start = .ok (vs, after)) :
          start.Passes after := by
        simp only [item] at hstart
        split at hstart
        · cases hstart
        · next hread =>
          split at hstart
          · cases hstart
          · next hmore =>
            cases hstart
            exact (hvalue hread).trans (ih hmore)
      split at h
      · cases h
      · next hcur =>
        cases h
        exact Cursor.passes_advance hcur (by decide)
      · next hcur =>
        split_ifs at h with hfirst hcomma
        · exact hitem _ h
        · subst hcomma
          refine .of_advance hcur (by decide) ((Cursor.passes_skipLayout _).trans ?_)
          split at h
          · cases h
          · cases h
          · exact hitem _ h

theorem passes_memberName? {first : Bool} {name? : Option String}
    (h : memberName? first cur = .ok (name?, after)) : cur.Passes after := by
  refine (Cursor.passes_skipLayout cur).trans ?_
  unfold memberName? at h
  extract_lets cur name at h
  have hname (start : Cursor) {cs : List Char} (hquote : start.rest = '"' :: cs)
      (hstart : name start = .ok (name?, after)) : start.Passes after := by
    simp only [name] at hstart
    split at hstart
    · cases hstart
    · next hbody =>
      cases hstart
      exact .of_advance hquote (by decide) (passes_stringBody_go hbody)
  split at h
  · cases h
  · next hcur =>
    cases h
    exact Cursor.passes_advance hcur (by decide)
  · next hcur =>
    split_ifs at h with hfirst hquote hcomma
    · subst hquote
      exact hname _ hcur h
    · subst hcomma
      refine .of_advance hcur (by decide) ((Cursor.passes_skipLayout _).trans ?_)
      split at h
      · cases h
      · next hquote => exact hname _ hquote h
      · cases h
      · cases h

/-- An object passes over its members and what separates them. -/
theorem passes_members {value : Cursor → Read Value} (hvalue : Passing value) {steps : Nat}
    {first : Bool} {known known' : List (String × Value)}
    (h : members value steps first known cur = .ok (known', after)) : cur.Passes after := by
  induction steps generalizing first known cur with
  | zero => cases h
  | succ steps ih =>
      rw [members.eq_def] at h
      simp only at h
      split at h
      · cases h
      · next hname =>
        cases h
        exact passes_memberName? hname
      · next hname =>
        refine (passes_memberName? hname).trans ((Cursor.passes_skipLayout _).trans ?_)
        split at h
        · cases h
        · next hcolon =>
          refine .of_advance hcolon (by decide) ?_
          split at h
          · cases h
          · next hread => exact (hvalue hread).trans (ih h)
        · cases h

theorem passing_value (depth : Nat) : Passing (value depth) := by
  induction depth using Nat.strong_induction_on with
  | _ depth ih =>
    intro cur after v h
    refine (Cursor.passes_skipLayout cur).trans ?_
    rw [value.eq_def] at h
    simp only at h
    split at h
    -- the end of the text, the three words, and a number after its sign
    · cases h
    · next hcur => exact .of_advance hcur (by decide) (passes_word (by simp [IsWritten]) h)
    · next hcur => exact .of_advance hcur (by decide) (passes_word (by simp [IsWritten]) h)
    · next hcur => exact .of_advance hcur (by decide) (passes_word (by simp [IsWritten]) h)
    · next hcur =>
      refine .of_advance hcur (by decide) ?_
      split at h
      · cases h
      · next hnumber =>
        cases h
        exact passes_number hnumber
    -- a string, an array and an object
    · next hcur =>
      refine .of_advance hcur (by decide) ?_
      split at h
      · cases h
      · next hbody =>
        cases h
        exact passes_stringBody_go hbody
    · next hcur =>
      refine .of_advance hcur (by decide) ?_
      split at h
      · cases h
      · next inner =>
        split at h
        · cases h
        · next hitems =>
          cases h
          exact passes_items (ih inner (Nat.lt_succ_self inner)) hitems
    · next hcur =>
      refine .of_advance hcur (by decide) ?_
      split at h
      · cases h
      · next inner =>
        split at h
        · cases h
        · next hmembers =>
          cases h
          exact passes_members (ih inner (Nat.lt_succ_self inner)) hmembers
    -- a number without a sign
    · split_ifs at h
      split at h
      · cases h
      · next hnumber =>
        cases h
        exact passes_number hnumber

end

/-! ## Texts and bytes that are read -/

/-- A text that is read has no control characters but layout. -/
theorem isWritten_of_parse_eq_ok {s : String} {v : Value} (h : parse s = .ok v) :
    ∀ c ∈ s.toList, IsWritten c := by
  unfold parse at h
  split at h
  · cases h
  · next cur hread =>
    simp only at h
    split_ifs at h with hempty
    obtain ⟨w, hw, hwritten⟩ :=
      (passing_value maxDepth hread).trans (Cursor.passes_skipLayout cur)
    have hs : s.toList = w := by
      rw [List.isEmpty_iff.1 hempty, List.append_nil] at hw
      exact hw
    exact hs ▸ hwritten

/-- Bytes that are read are those of a text: no others are a value. -/
theorem exists_text_of_parseBytes_eq_ok {bytes : List UInt8} {v : Value}
    (h : parseBytes bytes = .ok v) : ∃ s, Text.decode? bytes = some s ∧ parse s = .ok v := by
  unfold parseBytes at h
  split at h
  · next s hs => exact ⟨s, hs, h⟩
  · exfalso
    simp only at h
    cases hparse : parse (String.ofList ((markFault bytes).1 ++ (markFault bytes).2)) with
    | error e =>
        rw [hparse] at h
        cases h
    | ok v' =>
        have hmark := isWritten_of_parse_eq_ok hparse '\x01' (by simp [markFault])
        exact absurd hmark (by decide)

end Json

end ZoneGuard
