/-!
# UTF-8

Byte widths of characters, and the two ways to read bytes as text. The strict way refuses bytes that
are not well formed. The lenient way writes U+FFFD for each maximal run of bytes that begins a
character and does not complete it, and for each byte that begins none.
-/

namespace ZoneGuard.Text

def byteLength : List Char → Nat
  | [] => 0
  | c :: cs => c.utf8Size + byteLength cs

@[simp]
theorem byteLength_nil : byteLength [] = 0 := rfl

@[simp]
theorem byteLength_cons (c : Char) (cs : List Char) :
    byteLength (c :: cs) = c.utf8Size + byteLength cs := rfl

@[simp]
theorem byteLength_append (cs ds : List Char) :
    byteLength (cs ++ ds) = byteLength cs + byteLength ds := by
  induction cs with
  | nil => simp
  | cons c cs ih => simp [ih, Nat.add_assoc]

def encode (s : String) : List UInt8 :=
  s.toList.flatMap String.utf8EncodeChar

/-- The text of the bytes, or `none` if they are not well formed. -/
def decode? (bytes : List UInt8) : Option String :=
  String.fromUTF8? bytes.toByteArray

/-- The characters that the bytes begin with, and what is left from the first bytes on that are none.
No character has more than four bytes. -/
def splitFault (bytes : List UInt8) : List Char × List UInt8 :=
  go bytes.length [] bytes
where
  /-- Every step takes a byte at least, so their length bounds the steps. -/
  go : Nat → List Char → List UInt8 → List Char × List UInt8
    | 0, taken, bytes => (taken.reverse, bytes)
    | steps + 1, taken, bytes =>
      match (bytes.take 4).toByteArray.utf8DecodeChar? 0 with
      | some c => go steps (c :: taken) (bytes.drop c.utf8Size)
      | none => (taken.reverse, bytes)

/-- A character of which some bytes are still missing. -/
structure Partial where
  /-- The bits read so far. -/
  bits : Nat
  /-- How many bytes are missing, the next one included. -/
  missing : Nat
  /-- The least value of the next byte. -/
  low : Nat
  /-- The greatest value of the next byte. -/
  high : Nat

/-- What the byte `n` stands for where a character may begin: a character of its own, the beginning
of a longer one, or nothing, which is written U+FFFD. -/
def beginChar (n : Nat) : List Char × Option Partial :=
  if n < 0x80 then ([Char.ofNat n], none)
  else if 0xC2 ≤ n && n ≤ 0xDF then ([], some ⟨n % 32, 1, 0x80, 0xBF⟩)
  else if n == 0xE0 then ([], some ⟨0, 2, 0xA0, 0xBF⟩)
  else if n == 0xED then ([], some ⟨13, 2, 0x80, 0x9F⟩)
  else if 0xE1 ≤ n && n ≤ 0xEF then ([], some ⟨n % 16, 2, 0x80, 0xBF⟩)
  else if n == 0xF0 then ([], some ⟨0, 3, 0x90, 0xBF⟩)
  else if 0xF1 ≤ n && n ≤ 0xF3 then ([], some ⟨n % 8, 3, 0x80, 0xBF⟩)
  else if n == 0xF4 then ([], some ⟨4, 3, 0x80, 0x8F⟩)
  else (['\uFFFD'], none)

/-- The characters that the byte `n` completes, and the character it leaves incomplete. -/
def Partial.next (p : Option Partial) (n : Nat) : List Char × Option Partial :=
  match p with
  | none => beginChar n
  | some p =>
    if p.low ≤ n && n ≤ p.high then
      let bits := p.bits * 64 + n % 64
      if p.missing ≤ 1 then ([Char.ofNat bits], none)
      else ([], some ⟨bits, p.missing - 1, 0x80, 0xBF⟩)
    else
      let (cs, q) := beginChar n
      ('\uFFFD' :: cs, q)

/-- The characters of the bytes that follow the incomplete character `p`. -/
def lenientChars (p : Option Partial) : List UInt8 → List Char
  | [] => if p.isSome then ['\uFFFD'] else []
  | b :: bs =>
    let (cs, q) := Partial.next p b.toNat
    cs ++ lenientChars q bs

/-- The text of the bytes, with U+FFFD in place of each fault. -/
def decodeLenient (bytes : List UInt8) : String :=
  String.ofList (lenientChars none bytes)

example : splitFault [0x61, 0xC3, 0xA9, 0xC3, 0x28] = (['a', 'é'], [0xC3, 0x28]) := by
  decide +kernel

example : lenientChars none (encode "aé한😀") = "aé한😀".toList := by decide +kernel

example : decodeLenient [0xFF, 0xE1, 0x80, 0x41, 0xC3] = "\uFFFD\uFFFDA\uFFFD" := by
  decide +kernel

end ZoneGuard.Text
