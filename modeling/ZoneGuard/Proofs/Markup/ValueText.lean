import Mathlib
import ZoneGuard.Markup.Entity

/-!
# What attribute values stand for

A value is made of pieces: characters that stand for themselves, references to a character,
and references that are not known.  Each has its meaning wherever it stands.  Values are
read as a whole, and so a value is given its meaning only if all of its references can be
read: they are known, and no number has more digits than are ever needed.  Otherwise the
value stays as it is written, with the references that are known.
-/

namespace ZoneGuard

/-! ## Numbers -/

/-- The characters are digits of the base, and the number is the one they write. -/
def WritesNumber (base : Nat) (digits : List Char) (n : Nat) : Prop :=
  ∃ values : List Nat, digits.map (digit? base) = values.map some ∧
    Nat.ofDigits base values.reverse = n

theorem ofDigits?_concat (base : Nat) (cs : List Char) (c : Char) :
    ofDigits? base (cs ++ [c]) =
      (ofDigits? base cs).bind fun n => (digit? base c).map (base * n + ·) := by
  rw [ofDigits?, List.foldlM_append]
  cases hn : List.foldlM (fun n c => (digit? base c).map (base * n + ·)) 0 cs with
  | none => simp [ofDigits?, hn]
  | some n => simp [ofDigits?, hn]

theorem ofDigits?_eq_some_iff {base : Nat} {cs : List Char} {n : Nat} :
    ofDigits? base cs = some n ↔ WritesNumber base cs n := by
  induction cs using List.reverseRecOn generalizing n with
  | nil =>
      constructor
      · intro h
        cases h
        exact ⟨[], rfl, rfl⟩
      · rintro ⟨values, hvalues, rfl⟩
        rw [List.map_nil, eq_comm, List.map_eq_nil_iff] at hvalues
        rw [hvalues]
        rfl
  | append_singleton cs c ih =>
      rw [ofDigits?_concat]
      simp only [Option.bind_eq_some_iff, Option.map_eq_some_iff, ih]
      constructor
      · rintro ⟨-, ⟨values, hvalues, rfl⟩, value, hvalue, rfl⟩
        refine ⟨values ++ [value], by simp [hvalues, hvalue], ?_⟩
        rw [List.reverse_concat, Nat.ofDigits_cons, Nat.add_comm]
      · rintro ⟨values, hvalues, rfl⟩
        rw [List.map_append, eq_comm] at hvalues
        obtain ⟨front, last, rfl, hfront, hlast⟩ := List.map_eq_append_iff.1 hvalues
        obtain ⟨value, rfl, hvalue⟩ := List.map_eq_singleton_iff.1 hlast
        refine ⟨_, ⟨front, hfront.symm, rfl⟩, value, hvalue.symm, ?_⟩
        rw [List.reverse_concat, Nat.ofDigits_cons, Nat.add_comm]

theorem WritesNumber.notMem {base : Nat} {digits : List Char} {n : Nat}
    (h : WritesNumber base digits n) {c : Char} (hc : digit? base c = none) : c ∉ digits := by
  intro hmem
  obtain ⟨values, hvalues, -⟩ := h
  have hnone : none ∈ values.map some := hvalues ▸ List.mem_map.2 ⟨c, hmem, hc⟩
  simp at hnone

namespace Markup

/-! ## References -/

/-- A reference to the character, by its name or by its code point, is written with the
characters between its ampersand and its semicolon. -/
inductive RefersTo : List Char → Char → Prop
  | named {name : List Char} {c : Char} (h : (name, c) ∈ namedCharacters) : RefersTo name c
  | decimal {digits : List Char} {c : Char} (hc : c ≠ '\x00')
      (h : WritesNumber 10 digits c.toNat) : RefersTo ('#' :: digits) c
  | hexadecimal {digits : List Char} {c : Char} (hc : c ≠ '\x00')
      (h : WritesNumber 16 digits c.toNat) : RefersTo ('#' :: 'x' :: digits) c

/-- If a code point is given, then with no more digits than the greatest one has. -/
def HasFewDigits : List Char → Prop
  | '#' :: 'x' :: digits => digits.length ≤ 6
  | '#' :: digits => digits.length ≤ 7
  | _ => True

/-- A number refers to a character if it has few enough digits and writes its number, which is not
zero. -/
theorem codePoint?_eq_some_iff {base width : Nat} {digits : List Char} {c : Char} :
    codePoint? base width digits = some c ↔
      digits.length ≤ width ∧ c ≠ '\x00' ∧ WritesNumber base digits c.toNat := by
  have hzero : c.toNat = 0 ↔ c = '\x00' := by
    rw [← Char.toNat_inj]
    rfl
  rw [codePoint?, ← ofDigits?_eq_some_iff]
  by_cases hwidth : width < digits.length
  · simp [hwidth]
  · rw [if_neg hwidth]
    cases hnumber : ofDigits? base digits with
    | none => simp
    | some n =>
        cases n with
        | zero => simp [← hzero, eq_comm]
        | succ n =>
            have hchar : (n + 1).isValidChar ∧ Char.ofNat (n + 1) = c ↔ n + 1 = c.toNat := by
              constructor
              · rintro ⟨hvalid, rfl⟩
                rw [Char.toNat_ofNat, if_pos hvalid]
              · intro heq
                rw [heq]
                exact ⟨c.valid, Char.ofNat_toNat c⟩
            simp only [Option.ite_none_right_eq_some, Option.some.injEq, hchar]
            constructor
            · intro heq
              exact ⟨Nat.not_lt.1 hwidth, fun hc => by rw [← hzero] at hc; omega, heq⟩
            · rintro ⟨-, -, heq⟩
              exact heq

theorem lookup_namedCharacters_eq_some_iff {name : List Char} {c : Char} :
    namedCharacters.lookup name = some c ↔ (name, c) ∈ namedCharacters := by
  constructor
  · intro h
    obtain ⟨before, after, heq, -⟩ := List.lookup_eq_some_iff.1 h
    rw [heq]
    exact List.mem_append_right _ List.mem_cons_self
  · intro h
    have hall : ∀ entry ∈ namedCharacters, namedCharacters.lookup entry.1 = some entry.2 := by
      decide
    exact hall _ h

/-- The references that are read are those to characters, with few digits. -/
theorem referencedChar?_eq_some_iff {name : List Char} {c : Char} :
    referencedChar? name = some c ↔ RefersTo name c ∧ HasFewDigits name := by
  constructor
  · intro h
    unfold referencedChar? at h
    split at h
    · obtain ⟨hwidth, hc, hnumber⟩ := codePoint?_eq_some_iff.1 h
      exact ⟨.hexadecimal hc hnumber, hwidth⟩
    · next digits hx =>
      obtain ⟨hwidth, hc, hnumber⟩ := codePoint?_eq_some_iff.1 h
      refine ⟨.decimal hc hnumber, ?_⟩
      unfold HasFewDigits
      split <;> simp_all
    · refine ⟨.named (lookup_namedCharacters_eq_some_iff.1 h), ?_⟩
      unfold HasFewDigits
      split <;> simp_all
  · rintro ⟨h, hfew⟩
    cases h with
    | named h =>
        have hall : ∀ entry ∈ namedCharacters, referencedChar? entry.1 = some entry.2 := by decide
        exact hall _ h
    | @decimal digits c hc h =>
        have hx : ∀ rest, digits ≠ 'x' :: rest := by
          rintro rest rfl
          exact h.notMem (by decide) List.mem_cons_self
        unfold referencedChar?
        unfold HasFewDigits at hfew
        split <;> simp_all [codePoint?_eq_some_iff]
    | hexadecimal hc h => exact codePoint?_eq_some_iff.2 ⟨hfew, hc, h⟩

/-- A reference ends at its semicolon, and no other begins in it. -/
theorem RefersTo.notMem {name : List Char} {c : Char} (h : RefersTo name c) :
    '&' ∉ name ∧ ';' ∉ name := by
  cases h with
  | named h =>
      have hall : ∀ entry ∈ namedCharacters, '&' ∉ entry.1 ∧ ';' ∉ entry.1 := by decide
      exact hall _ h
  | decimal hc h => simp [h.notMem (c := '&') (by decide), h.notMem (c := ';') (by decide)]
  | hexadecimal hc h => simp [h.notMem (c := '&') (by decide), h.notMem (c := ';') (by decide)]

/-- Only five names refer to characters. -/
theorem not_refersTo {name : List Char} (hnamed : ∀ entry ∈ namedCharacters, entry.1 ≠ name)
    (hnumber : name.head? ≠ some '#') (c : Char) : ¬ RefersTo name c := by
  intro h
  cases h with
  | named h => exact hnamed _ h rfl
  | decimal hc h => exact hnumber rfl
  | hexadecimal hc h => exact hnumber rfl

/-! ## Pieces of values -/

inductive Piece where
  /-- Characters that stand for themselves. -/
  | plain (text : List Char) (h : '&' ∉ text)
  /-- A reference to the character. -/
  | known (name : List Char) (c : Char) (h : RefersTo name c)
  /-- A reference to no character. -/
  | unknown (name : List Char) (h : '&' ∉ name ∧ ';' ∉ name) (hnone : ∀ c, ¬ RefersTo name c)

namespace Piece

def write : Piece → List Char
  | plain text _ => text
  | known name _ _ | unknown name _ _ => '&' :: (name ++ [';'])

/-- What the piece stands for. -/
def meaning : Piece → List Char
  | plain text _ => text
  | known _ c _ => [c]
  | unknown name _ _ => '&' :: (name ++ [';'])

def IsKnown : Piece → Prop
  | known .. => True
  | plain .. | unknown .. => False

/-- The piece is none that keeps a value from being read. -/
def IsReadable : Piece → Prop
  | plain .. => True
  | known name _ _ => HasFewDigits name
  | unknown .. => False

/-- Only known references are shortened. -/
theorem length_meaning_le (p : Piece) :
    p.meaning.length ≤ p.write.length ∧ (p.meaning.length = p.write.length ↔ ¬ p.IsKnown) := by
  cases p with
  | plain text h => simp [write, meaning, IsKnown]
  | known name c h => simp [write, meaning, IsKnown]
  | unknown name h hnone => simp [write, meaning, IsKnown]

theorem meaning_eq_write {p : Piece} (h : ¬ p.IsKnown) : p.meaning = p.write := by
  cases p with
  | plain text h => rfl
  | known name c h' => exact absurd trivial h
  | unknown name h hnone => rfl

/-- A value means what it says exactly if no reference in it is known. -/
theorem flatMap_meaning_eq_iff {pieces : List Piece} :
    pieces.flatMap meaning = pieces.flatMap write ↔ ∀ p ∈ pieces, ¬ p.IsKnown := by
  constructor
  · intro h
    have hlength := congrArg List.length h
    clear h
    induction pieces with
    | nil => simp
    | cons p pieces ih =>
        have hle : (pieces.flatMap meaning).length ≤ (pieces.flatMap write).length := by
          simp only [List.length_flatMap]
          exact List.sum_le_sum fun q _ => q.length_meaning_le.1
        obtain ⟨hp, hiff⟩ := p.length_meaning_le
        simp only [List.flatMap_cons, List.length_append] at hlength
        rw [List.forall_mem_cons]
        exact ⟨hiff.1 (by omega), ih (by omega)⟩
  · intro h
    exact List.flatMap_congr fun p hp => meaning_eq_write (h p hp)

end Piece

/-! ## Reading -/

/-- What is no reference is kept. -/
theorem expand?_go_plain {text : List Char} (h : '&' ∉ text) (rest : List Char) :
    expand?.go none (text ++ rest) = (expand?.go none rest).map (text ++ ·) := by
  induction text with
  | nil => simp
  | cons c text ih =>
      have hc : c ≠ '&' := fun heq => h (heq ▸ List.mem_cons_self)
      rw [List.cons_append, expand?.go, if_neg hc, ih (List.not_mem_of_not_mem_cons h),
        Option.map_map]
      rfl

/-- A reference is looked at when its semicolon is reached. -/
theorem expand?_go_name {name : List Char} (h : '&' ∉ name ∧ ';' ∉ name)
    (taken rest : List Char) :
    expand?.go (some taken) (name ++ ';' :: rest) =
      (referencedChar? (taken.reverse ++ name)).bind fun d =>
        (expand?.go none rest).map (d :: ·) := by
  induction name generalizing taken with
  | nil =>
      rw [List.nil_append, List.append_nil, expand?.go, if_pos rfl]
      cases referencedChar? taken.reverse with
      | none => rfl
      | some d => rfl
  | cons c name ih =>
      obtain ⟨hampersand, hsemicolon⟩ := h
      have hc : c ≠ '&' := fun heq => hampersand (heq ▸ List.mem_cons_self)
      have hc' : c ≠ ';' := fun heq => hsemicolon (heq ▸ List.mem_cons_self)
      rw [List.cons_append, expand?.go, if_neg hc', if_neg hc,
        ih ⟨List.not_mem_of_not_mem_cons hampersand, List.not_mem_of_not_mem_cons hsemicolon⟩]
      simp

/-- A reference becomes its character, or the value is kept as it is. -/
theorem expand?_go_reference {name : List Char} (h : '&' ∉ name ∧ ';' ∉ name)
    (rest : List Char) :
    expand?.go none ('&' :: (name ++ ';' :: rest)) =
      (referencedChar? name).bind fun d => (expand?.go none rest).map (d :: ·) := by
  rw [expand?.go, if_pos rfl, expand?_go_name h]
  rfl

/-- A readable piece is read wherever it stands, and no value with another piece is read. -/
theorem Piece.expand?_go_write (p : Piece) (rest value : List Char) :
    expand?.go none (p.write ++ rest) = some value ↔
      p.IsReadable ∧
        ∃ behind, expand?.go none rest = some behind ∧ value = p.meaning ++ behind := by
  cases p with
  | plain text h =>
      simp [write, meaning, IsReadable, expand?_go_plain h, eq_comm]
  | known name c h =>
      have hwrite : (known name c h).write ++ rest = '&' :: (name ++ ';' :: rest) := by
        simp [write]
      rw [hwrite, expand?_go_reference h.notMem]
      by_cases hfew : HasFewDigits name
      · simp [referencedChar?_eq_some_iff.2 ⟨h, hfew⟩, meaning, IsReadable, hfew, eq_comm]
      · have hnone : referencedChar? name = none := by
          rw [Option.eq_none_iff_forall_ne_some]
          exact fun d hd => hfew (referencedChar?_eq_some_iff.1 hd).2
        simp [hnone, IsReadable, hfew]
  | unknown name h hnone =>
      have hwrite : (unknown name h hnone).write ++ rest = '&' :: (name ++ ';' :: rest) := by
        simp [write]
      have hnone : referencedChar? name = none := by
        rw [Option.eq_none_iff_forall_ne_some]
        exact fun d hd => hnone d (referencedChar?_eq_some_iff.1 hd).1
      rw [hwrite, expand?_go_reference h, hnone]
      simp [IsReadable]

/-- A value is read exactly if all of its pieces are readable. -/
theorem expand?_flatMap_write_eq_some_iff {pieces : List Piece} {value : List Char} :
    expand? (pieces.flatMap Piece.write) = some value ↔
      (∀ p ∈ pieces, p.IsReadable) ∧ value = pieces.flatMap Piece.meaning := by
  rw [expand?]
  induction pieces generalizing value with
  | nil => simp [expand?.go, eq_comm]
  | cons p pieces ih =>
      simp only [List.flatMap_cons, p.expand?_go_write, ih, List.forall_mem_cons]
      constructor
      · rintro ⟨hp, -, ⟨hpieces, rfl⟩, rfl⟩
        exact ⟨⟨hp, hpieces⟩, rfl⟩
      · rintro ⟨⟨hp, hpieces⟩, rfl⟩
        exact ⟨hp, _, ⟨hpieces, rfl⟩, rfl⟩

/-- If all of its references can be read, a value means what its pieces mean. -/
theorem valueText_of_forall_isReadable {pieces : List Piece} (h : ∀ p ∈ pieces, p.IsReadable) :
    valueText (pieces.flatMap Piece.write) = String.ofList (pieces.flatMap Piece.meaning) := by
  rw [valueText, expand?_flatMap_write_eq_some_iff.2 ⟨h, rfl⟩, Option.getD_some]

/-- One piece that is not readable keeps the whole value as it is written. -/
theorem valueText_of_exists_not_isReadable {pieces : List Piece}
    (h : ∃ p ∈ pieces, ¬ p.IsReadable) :
    valueText (pieces.flatMap Piece.write) = String.ofList (pieces.flatMap Piece.write) := by
  obtain ⟨p, hp, hnot⟩ := h
  have hnone : expand? (pieces.flatMap Piece.write) = none := by
    rw [Option.eq_none_iff_forall_ne_some]
    exact fun value hvalue => hnot ((expand?_flatMap_write_eq_some_iff.1 hvalue).1 p hp)
  rw [valueText, hnone, Option.getD_none]

/-- A value that consists of the pieces is reported in this way. -/
structure IsReportedAs (pieces : List Piece) (value : String) : Prop where
  readable : (∀ p ∈ pieces, p.IsReadable) → value = String.ofList (pieces.flatMap Piece.meaning)
  unreadable : (∃ p ∈ pieces, ¬ p.IsReadable) → value = String.ofList (pieces.flatMap Piece.write)
  meaning_iff : value = String.ofList (pieces.flatMap Piece.meaning) ↔
    (∀ p ∈ pieces, p.IsReadable) ∨ ∀ p ∈ pieces, ¬ p.IsKnown

/-- A value is given its meaning if all of its pieces are readable, and stays as it is written
if one is not.  This makes a difference unless no piece is known. -/
theorem isReportedAs_valueText (pieces : List Piece) :
    IsReportedAs pieces (valueText (pieces.flatMap Piece.write)) where
  readable := valueText_of_forall_isReadable
  unreadable := valueText_of_exists_not_isReadable
  meaning_iff := by
    by_cases hreadable : ∀ p ∈ pieces, p.IsReadable
    · exact iff_of_true (valueText_of_forall_isReadable hreadable) (Or.inl hreadable)
    · rw [valueText_of_exists_not_isReadable (by simpa using hreadable), String.ofList_inj,
        eq_comm, Piece.flatMap_meaning_eq_iff, or_iff_right hreadable]

end Markup

end ZoneGuard
