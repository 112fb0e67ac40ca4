import Mathlib
import ZoneGuard.Json.Printer
import ZoneGuard.Json.Reader

/-!
# Reading words, numbers and strings

What is written for a word, a natural number or a string is read as it, wherever
it stands.  A number ends where no digit, point or exponent follows; a string is
read character by character, each of them standing for itself or for an escape.
-/

namespace ZoneGuard.Json

open Text (isLayout)

/-! ## Cursors -/

namespace Cursor

/-- A character further, the first one left is gone. -/
theorem rest_advance (cur : Cursor) : cur.advance.rest = cur.rest.tail := by
  unfold advance
  split
  · next hrest => rw [hrest, List.tail_nil]
  · next c cs hrest =>
    rw [hrest, List.tail_cons]
    split <;> rfl

theorem rest_drop (n : Nat) (cur : Cursor) : (drop n cur).rest = cur.rest.drop n := by
  induction n generalizing cur with
  | zero => rfl
  | succ n ih => rw [drop, ih, rest_advance, List.drop_tail]

theorem drop_drop (m n : Nat) (cur : Cursor) : drop n (drop m cur) = drop (m + n) cur := by
  induction m generalizing cur with
  | zero => rw [Nat.zero_add, drop]
  | succ m ih => rw [Nat.succ_add, drop, drop, ih]

theorem advance_eq_drop (cur : Cursor) : cur.advance = drop 1 cur := rfl

theorem rest_drop_of_eq {cur : Cursor} {w rest : List Char} (h : cur.rest = w ++ rest) :
    (drop w.length cur).rest = rest := by
  rw [rest_drop, h, List.drop_left]

/-- Layout is skipped up to the first other character. -/
theorem skipLayout_of_eq {cur : Cursor} {gap rest : List Char} (h : cur.rest = gap ++ rest)
    (hgap : ∀ c ∈ gap, isLayout c = true) (hrest : ∀ c ∈ rest.head?, isLayout c = false) :
    cur.skipLayout = drop gap.length cur := by
  have htake : cur.rest.takeWhile isLayout = gap := by
    rw [h, List.takeWhile_append_of_pos hgap]
    cases rest with
    | nil => simp
    | cons c cs => simp [hrest c rfl]
  rw [skipLayout, htake]

theorem skipLayout_of_rest_cons {cur : Cursor} {c : Char} {rest : List Char}
    (h : cur.rest = c :: rest) (hc : isLayout c = false) : cur.skipLayout = cur :=
  skipLayout_of_eq (List.nil_append _).symm (by simp) (by simp [h, hc])

end Cursor

def isNumberChar (c : Char) : Bool := c.isDigit || c == '.' || c == 'e' || c == 'E'

/-- The reader gives the value for the text, and stops behind it, wherever the text
stands and whatever follows but more of a number. -/
def Reads {α : Type} (read : Cursor → Read α) (w : List Char) (a : α) : Prop :=
  ∀ (cur : Cursor) (rest : List Char), cur.rest = w ++ rest →
    (∀ c ∈ rest.head?, isNumberChar c = false) → read cur = .ok (a, cur.drop w.length)

/-! ## Words and numbers -/

/-- A word is read letter by letter. -/
theorem reads_word (v : Value) (w : List Char) : Reads (word v w) w v := by
  intro cur rest hcur _
  induction w generalizing cur with
  | nil => rfl
  | cons c cs ih =>
      rw [word, hcur, List.cons_append]
      simp only [if_true, List.length_cons]
      rw [ih cur.advance (by rw [Cursor.rest_advance, hcur]; rfl), Cursor.drop]

theorem le_ofDigitChars (ds : List Char) (n : Nat) : n ≤ Nat.ofDigitChars 10 ds n := by
  induction ds generalizing n with
  | nil => simp
  | cons d ds ih =>
      rw [Nat.ofDigitChars_cons]
      exact le_trans (by omega) (ih _)

/-- A significand below the bound keeps all digits. -/
theorem extendSignificand_go (ds : List Char) {n used : Nat}
    (h : Nat.ofDigitChars 10 ds n < significandBound) :
    extendSignificand.go n used ds = (Nat.ofDigitChars 10 ds n, used + ds.length) := by
  induction ds generalizing n used with
  | nil => simp [extendSignificand.go]
  | cons d ds ih =>
      rw [Nat.ofDigitChars_cons] at h ⊢
      have hnext : n * 10 + digitValue d = 10 * n + (d.toNat - '0'.toNat) := by
        rw [digitValue, Nat.mul_comm]
      have hbound : 10 * n + (d.toNat - '0'.toNat) < significandBound :=
        lt_of_le_of_lt (le_ofDigitChars ds _) h
      rw [extendSignificand.go, hnext, if_pos hbound, ih h, List.length_cons]
      congr 1
      omega

/-- A number has no zeros in front. -/
theorem head?_toDigits_ne {n : Nat} (hn : 0 < n) : (Nat.toDigits 10 n).head? ≠ some '0' := by
  induction n using Nat.strong_induction_on with
  | _ n ih =>
      by_cases hsmall : n < 10
      · rw [Nat.toDigits_of_lt_base hsmall]
        interval_cases n <;> decide
      · have hfront := ih (n / 10) (by omega) (by omega)
        rw [Nat.toDigits_of_base_le (by omega) (by omega), List.head?_append]
        cases hhead : (Nat.toDigits 10 (n / 10)).head? with
        | none => exact absurd (List.head?_eq_none_iff.1 hhead) Nat.toDigits_ne_nil
        | some c => simpa [hhead] using hfront

theorem toDigits_ne_zero_cons (n : Nat) (c : Char) (cs : List Char) :
    Nat.toDigits 10 n ≠ '0' :: c :: cs := by
  intro h
  rcases Nat.eq_zero_or_pos n with rfl | hn
  · cases h
  · exact head?_toDigits_ne hn (by rw [h]; rfl)

/-- A natural number of 64 bits is read from its decimal digits. -/
theorem reads_number {n : Nat} (hn : n < UInt64.size) :
    Reads (number · false) (Nat.toDigits 10 n) (.integer n) := by
  intro cur rest hcur hrest
  have hdigits : ∀ c ∈ Nat.toDigits 10 n, c.isDigit = true :=
    fun c hc => Nat.isDigit_of_mem_toDigits (by omega) (by omega) hc
  have htake : takeDigits cur = (Nat.toDigits 10 n, cur.drop (Nat.toDigits 10 n).length) := by
    have hwhile : cur.rest.takeWhile Char.isDigit = Nat.toDigits 10 n := by
      rw [hcur, List.takeWhile_append_of_pos hdigits]
      cases rest with
      | nil => simp
      | cons c cs =>
          have hc := hrest c rfl
          simp only [isNumberChar, Bool.or_eq_false_iff] at hc
          simp [hc.1.1.1]
    rw [takeDigits, hwhile]
  have hextend : extendSignificand 0 (Nat.toDigits 10 n) = (n, (Nat.toDigits 10 n).length) := by
    rw [extendSignificand, extendSignificand_go _ (by rwa [Nat.ofDigitChars_ten_toDigits]),
      Nat.ofDigitChars_ten_toDigits, Nat.zero_add]
  have hafter := Cursor.rest_drop_of_eq hcur
  simp only [number, htake]
  split
  · next h => exact absurd h Nat.toDigits_ne_nil
  · next h => exact absurd h (toDigits_ne_zero_cons _ _ _)
  · simp only [hextend, hafter]
    split
    · exact absurd (hrest '.' rfl) (by decide)
    · exact absurd (hrest 'e' rfl) (by decide)
    · exact absurd (hrest 'E' rfl) (by decide)
    · simp

/-! ## Strings -/

/-- What stands for a character in a string: the character, or an escape that is
read as it. -/
inductive StandsFor (c : Char) : List Char → Prop
  | plain (hquote : c ≠ '"') (hbackslash : c ≠ '\\') (hcontrol : 0x20 ≤ c.toNat) : StandsFor c [c]
  | escape {e : List Char} (h : ∀ (cur : Cursor) (rest : List Char), cur.rest = e ++ rest →
      Json.escape cur = .ok (c, cur.drop e.length)) : StandsFor c ('\\' :: e)

theorem fourHex_of_eq {cur : Cursor} {a b c d : Char} {rest : List Char} {unit : Nat}
    (hcur : cur.rest = a :: b :: c :: d :: rest) (hunit : ofDigits? 16 [a, b, c, d] = some unit) :
    fourHex cur = .ok (unit, cur.drop 4) := by
  rw [fourHex.eq_def]
  simp only [hcur, hunit]

/-- The escape of a code unit stands for its character. -/
theorem standsFor_unicode {c a b d e : Char} (h : ofDigits? 16 [a, b, d, e] = some c.toNat)
    (hsmall : c.toNat < 0xD800) : StandsFor c ['\\', 'u', a, b, d, e] := by
  refine .escape fun cur rest hcur => ?_
  have hadvance : cur.advance.rest = a :: b :: d :: e :: rest := by
    rw [Cursor.rest_advance, hcur]
    rfl
  have hfour := fourHex_of_eq hadvance h
  rw [Json.escape, hcur]
  simp [unicodeEscape, hfour, hsmall, Cursor.drop]

theorem hexadecimal_one : ∀ n < 0x10, Text.hexadecimal n = [Nat.digitChar n] ∧
    ofDigits? 16 ['0', '0', '0', Nat.digitChar n] = some n := by
  decide +kernel

theorem hexadecimal_two : ∀ n < 0x20, 0x10 ≤ n →
    Text.hexadecimal n = ['1', Nat.digitChar (n % 0x10)] ∧
      ofDigits? 16 ['0', '0', '1', Nat.digitChar (n % 0x10)] = some n := by
  decide +kernel

def letterEscapes : List (Char × Char) :=
  [('"', '"'), ('\\', '\\'), ('b', '\x08'), ('f', '\x0c'), ('n', '\n'), ('r', '\r'), ('t', '\t')]

theorem standsFor_letter {c letter : Char} (h : (letter, c) ∈ letterEscapes) :
    StandsFor c ['\\', letter] := by
  refine .escape fun cur rest hcur => ?_
  simp only [letterEscapes, List.mem_cons, Prod.mk.injEq, List.not_mem_nil, or_false] at h
  rcases h with ⟨rfl, rfl⟩ | ⟨rfl, rfl⟩ | ⟨rfl, rfl⟩ | ⟨rfl, rfl⟩ | ⟨rfl, rfl⟩ | ⟨rfl, rfl⟩ |
    ⟨rfl, rfl⟩
  all_goals
    simp only [Json.escape, hcur, List.cons_append]
    rfl

theorem standsFor_escapeChar (c : Char) : StandsFor c (escapeChar c) := by
  unfold escapeChar
  split_ifs with hself hbackspace hfeed hline hreturn htab hone htwo
  · rw [Bool.or_eq_true, decide_eq_true_iff, decide_eq_true_iff] at hself
    rcases hself with rfl | rfl
    · exact standsFor_letter (by decide)
    · exact standsFor_letter (by decide)
  · exact hbackspace ▸ standsFor_letter (by decide)
  · exact hfeed ▸ standsFor_letter (by decide)
  · exact hline ▸ standsFor_letter (by decide)
  · exact hreturn ▸ standsFor_letter (by decide)
  · exact htab ▸ standsFor_letter (by decide)
  · obtain ⟨hdigit, hvalue⟩ := hexadecimal_one c.toNat hone
    rw [hdigit]
    exact standsFor_unicode hvalue (by omega)
  · obtain ⟨hdigits, hvalue⟩ := hexadecimal_two c.toNat htwo (by omega)
    rw [hdigits]
    exact standsFor_unicode hvalue (by omega)
  · rw [Bool.or_eq_true, decide_eq_true_iff, decide_eq_true_iff, not_or] at hself
    exact .plain hself.1 hself.2 (by omega)

theorem StandsFor.length_pos {c : Char} {w : List Char} (h : StandsFor c w) : 0 < w.length := by
  cases h <;> exact Nat.succ_pos _

theorem stringBody_go_of_standsFor {c : Char} {w : List Char} (h : StandsFor c w) {steps : Nat}
    {taken : List Char} {cur : Cursor} {rest : List Char} (hcur : cur.rest = w ++ rest) :
    stringBody.go (steps + 1) taken cur = stringBody.go steps (c :: taken) (cur.drop w.length) := by
  cases h with
  | plain hquote hbackslash hcontrol =>
      rw [stringBody.go, hcur, List.singleton_append]
      simp [hcontrol, Cursor.drop]
  | @escape e h =>
      have hnext := h cur.advance rest (by rw [Cursor.rest_advance, hcur]; rfl)
      rw [stringBody.go, hcur, List.cons_append]
      simp only [hnext]
      rfl

/-- A string with its escapes is read up to the quote. -/
theorem stringBody_go {cs : List Char} {steps : Nat} {taken : List Char} {cur : Cursor}
    {rest : List Char} (hcur : cur.rest = cs.flatMap escapeChar ++ '"' :: rest)
    (hsteps : cs.length < steps) : stringBody.go steps taken cur =
      .ok (String.ofList (taken.reverse ++ cs), cur.drop ((cs.flatMap escapeChar).length + 1)) := by
  induction cs generalizing steps taken cur with
  | nil =>
      obtain ⟨steps, rfl⟩ : ∃ more, steps = more + 1 := ⟨steps - 1, by omega⟩
      simp [stringBody.go, hcur, Cursor.drop]
  | cons c cs ih =>
      obtain ⟨steps, rfl⟩ : ∃ more, steps = more + 1 := ⟨steps - 1, by omega⟩
      rw [List.flatMap_cons, List.append_assoc] at hcur
      rw [stringBody_go_of_standsFor (standsFor_escapeChar c) hcur,
        ih (Cursor.rest_drop_of_eq hcur) (by simpa using hsteps), Cursor.drop_drop,
        List.flatMap_cons, List.length_append, Nat.add_assoc, List.reverse_cons, List.append_assoc,
        List.singleton_append]

/-- The text of a string without its opening quote. -/
def stringTail (s : String) : List Char := s.toList.flatMap escapeChar ++ ['"']

theorem toList_stringText (s : String) : (stringText s).toList = '"' :: stringTail s := by
  simp [stringText, stringTail]

/-- A string is read from what is written for it. -/
theorem stringBody_of_eq {s : String} {cur : Cursor} {rest : List Char}
    (hcur : cur.rest = stringTail s ++ rest) :
    stringBody cur = .ok (s, cur.drop (stringTail s).length) := by
  have hpieces : cur.rest = s.toList.flatMap escapeChar ++ '"' :: rest := by
    rw [hcur, stringTail, List.append_assoc, List.singleton_append]
  have hlength : s.toList.length ≤ (s.toList.flatMap escapeChar).length := by
    have hsum := List.length_le_sum_of_one_le (s.toList.map fun c => (escapeChar c).length) (by
      intro n hn
      obtain ⟨c, -, rfl⟩ := List.mem_map.1 hn
      exact (standsFor_escapeChar c).length_pos)
    rwa [List.length_map, ← List.length_flatMap] at hsum
  have hsteps : s.toList.length < cur.rest.length + 1 := by
    rw [hpieces, List.length_append]
    omega
  rw [stringBody, stringBody_go hpieces hsteps, stringTail, List.length_append,
    List.length_singleton, List.reverse_nil, List.nil_append, String.ofList_toList]

end ZoneGuard.Json
