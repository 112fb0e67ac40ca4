import ZoneGuard.Text.Utf8
import ZoneGuard.Text.Quoted

/-!
# SHA-256

The digest of a byte sequence as eight words, and its text: sixty-four hexadecimal digits in lower
case.
-/

namespace ZoneGuard.Sha256

/-- The constants of the sixty-four rounds. -/
def roundConstants : List UInt32 :=
  [0x428a2f98, 0x71374491, 0xb5c0fbcf, 0xe9b5dba5, 0x3956c25b, 0x59f111f1, 0x923f82a4, 0xab1c5ed5,
   0xd807aa98, 0x12835b01, 0x243185be, 0x550c7dc3, 0x72be5d74, 0x80deb1fe, 0x9bdc06a7, 0xc19bf174,
   0xe49b69c1, 0xefbe4786, 0x0fc19dc6, 0x240ca1cc, 0x2de92c6f, 0x4a7484aa, 0x5cb0a9dc, 0x76f988da,
   0x983e5152, 0xa831c66d, 0xb00327c8, 0xbf597fc7, 0xc6e00bf3, 0xd5a79147, 0x06ca6351, 0x14292967,
   0x27b70a85, 0x2e1b2138, 0x4d2c6dfc, 0x53380d13, 0x650a7354, 0x766a0abb, 0x81c2c92e, 0x92722c85,
   0xa2bfe8a1, 0xa81a664b, 0xc24b8b70, 0xc76c51a3, 0xd192e819, 0xd6990624, 0xf40e3585, 0x106aa070,
   0x19a4c116, 0x1e376c08, 0x2748774c, 0x34b0bcb5, 0x391c0cb3, 0x4ed8aa4a, 0x5b9cca4f, 0x682e6ff3,
   0x748f82ee, 0x78a5636f, 0x84c87814, 0x8cc70208, 0x90befffa, 0xa4506ceb, 0xbef9a3f7, 0xc67178f2]

/-- The eight words between two blocks. -/
structure Words where
  a : UInt32 := 0x6a09e667
  b : UInt32 := 0xbb67ae85
  c : UInt32 := 0x3c6ef372
  d : UInt32 := 0xa54ff53a
  e : UInt32 := 0x510e527f
  f : UInt32 := 0x9b05688c
  g : UInt32 := 0x1f83d9ab
  h : UInt32 := 0x5be0cd19
deriving DecidableEq

def rotate (x : UInt32) (n : UInt32) : UInt32 := (x >>> n) ||| (x <<< (32 - n))

def Words.round (s : Words) (k w : UInt32) : Words :=
  let mix := rotate s.e 6 ^^^ rotate s.e 11 ^^^ rotate s.e 25
  let choice := (s.e &&& s.f) ^^^ (~~~s.e &&& s.g)
  let t := s.h + mix + choice + k + w
  let spread := rotate s.a 2 ^^^ rotate s.a 13 ^^^ rotate s.a 22
  let majority := (s.a &&& s.b) ^^^ (s.a &&& s.c) ^^^ (s.b &&& s.c)
  ⟨t + spread + majority, s.a, s.b, s.c, s.d + t, s.e, s.f, s.g⟩

def Words.add (s t : Words) : Words :=
  ⟨s.a + t.a, s.b + t.b, s.c + t.c, s.d + t.d, s.e + t.e, s.f + t.f, s.g + t.g, s.h + t.h⟩

/-- The sixty-four words of the schedule, from the sixteen of a block. -/
def schedule (block : Array UInt32) : Array UInt32 :=
  (List.range 48).foldl extend block
where
  /-- Appends the word that follows the first `i + 16`. -/
  extend (w : Array UInt32) (i : Nat) : Array UInt32 :=
    let x := w.getD (i + 1) 0
    let y := w.getD (i + 14) 0
    let s := rotate x 7 ^^^ rotate x 18 ^^^ (x >>> 3)
    let t := rotate y 17 ^^^ rotate y 19 ^^^ (y >>> 10)
    w.push (w.getD i 0 + s + w.getD (i + 9) 0 + t)

def Words.absorb (s : Words) (block : Array UInt32) : Words :=
  s.add ((roundConstants.zip (schedule block).toList).foldl (fun t (k, w) => t.round k w) s)

/-- The words of four bytes each, the first byte the most significant. -/
def toWords : List UInt8 → List UInt32
  | a :: b :: c :: d :: rest =>
    (a.toUInt32 <<< 24 ||| b.toUInt32 <<< 16 ||| c.toUInt32 <<< 8 ||| d.toUInt32) :: toWords rest
  | _ => []

/-- The bytes with a mark, zeros up to eight bytes short of a block, and the length in bits. -/
def pad (bytes : List UInt8) : List UInt8 :=
  let length := bytes.length
  let zeros := (119 - length % 64) % 64
  let bits := length * 8
  bytes ++ (0x80 : UInt8) :: List.replicate zeros 0
    ++ (List.range 8).map fun i => UInt8.ofNat (bits >>> (8 * (7 - i)) % 256)

/-- Works the words into the state, sixteen at a time. -/
def absorbAll (s : Words) (words : List UInt32) : Words :=
  go words.length s words
where
  /-- The length bounds the number of blocks. -/
  go : Nat → Words → List UInt32 → Words
    | 0, s, _ => s
    | steps + 1, s, words =>
      if words.isEmpty then s else go steps (s.absorb (words.take 16).toArray) (words.drop 16)

def wordText (w : UInt32) : List Char :=
  let digits := Text.hexadecimal w.toNat
  List.replicate (8 - digits.length) '0' ++ digits

def hexDigest (bytes : List UInt8) : String :=
  let s := absorbAll {} (toWords (pad bytes))
  String.ofList ([s.a, s.b, s.c, s.d, s.e, s.f, s.g, s.h].flatMap wordText)

end ZoneGuard.Sha256
