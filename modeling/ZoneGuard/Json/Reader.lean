import ZoneGuard.Json.Value
import ZoneGuard.Numeric.Digit
import ZoneGuard.Text.Blank
import ZoneGuard.Text.Utf8

/-!
# Reading JSON

Reads one value and nothing else. A failure names its cause, the line and the byte column of the
last byte looked at, and the path of member names and indices under which it arose. Of two members
with one name the later wins, and members are kept in the order of their names. Arrays and objects
may be nested 127 deep.
-/

namespace ZoneGuard.Json

/-- Why a text is not a JSON value. -/
inductive Cause where
  | endInValue
  | endInObject
  | endInList
  | endInString
  | expectedValue
  | expectedIdent
  | expectedColon
  | expectedObjectEnd
  | expectedListEnd
  | keyNotString
  | trailingComma
  | trailingCharacters
  | invalidNumber
  | numberOutOfRange
  | controlCharacter
  | invalidEscape
  | unexpectedEscapeEnd
  | loneSurrogate
  | invalidCodePoint
  | nestedTooDeeply
deriving DecidableEq, Repr

def Cause.text : Cause → String
  | .endInValue => "EOF while parsing a value"
  | .endInObject => "EOF while parsing an object"
  | .endInList => "EOF while parsing a list"
  | .endInString => "EOF while parsing a string"
  | .expectedValue => "expected value"
  | .expectedIdent => "expected ident"
  | .expectedColon => "expected \x60:\x60"
  | .expectedObjectEnd => "expected \x60,\x60 or \x60\x7d\x60"
  | .expectedListEnd => "expected \x60,\x60 or \x60]\x60"
  | .keyNotString => "key must be a string"
  | .trailingComma => "trailing comma"
  | .trailingCharacters => "trailing characters"
  | .invalidNumber => "invalid number"
  | .numberOutOfRange => "number out of range"
  | .controlCharacter => "control character (\\u0000-\\u001F) found while parsing a string"
  | .invalidEscape => "invalid escape"
  | .unexpectedEscapeEnd => "unexpected end of hex escape"
  | .loneSurrogate => "lone leading surrogate in hex escape"
  | .invalidCodePoint => "invalid unicode code point"
  | .nestedTooDeeply => "recursion limit exceeded"

/-- A step from a value to one inside it. -/
inductive Step where
  | member (name : String)
  | item (index : Nat)
  /-- To the member whose name is still being read. -/
  | unnamed
deriving DecidableEq, Repr

/-- The steps as text: names with points between them, indices in brackets, and a question mark for
a member without a name yet. -/
def pathText (path : List Step) : String :=
  go true path
where
  /-- A name that is not first has a point before it. -/
  go : Bool → List Step → String
    | _, [] => ""
    | first, .member name :: rest => (if first then "" else ".") ++ name ++ go false rest
    | first, .unnamed :: rest => (if first then "" else ".") ++ "?" ++ go false rest
    | _, .item index :: rest => "[" ++ toString index ++ "]" ++ go false rest

/-- A failed reading. -/
structure ReadError where
  cause : Cause
  line : Nat
  column : Nat
  path : List Step
deriving DecidableEq, Repr

namespace ReadError

def message (e : ReadError) : String :=
  e.cause.text ++ " at line " ++ toString e.line ++ " column " ++ toString e.column

/-- The message, after the path to the value that could not be read, if the path has a step that is
known. -/
def messageWithPath (e : ReadError) : String :=
  if e.path.all (· == .unnamed) then e.message else pathText e.path ++ ": " ++ e.message

/-- The error seen from a value one step further out. -/
def under (step : Step) (e : ReadError) : ReadError := { e with path := step :: e.path }

end ReadError

/-- What is left to read, and how far reading has come. The column counts bytes since the last line
feed. -/
structure Cursor where
  rest : List Char
  line : Nat
  column : Nat

namespace Cursor

def ofText (s : String) : Cursor := ⟨s.toList, 1, 0⟩

def advance (cur : Cursor) : Cursor :=
  match cur.rest with
  | [] => cur
  | c :: cs => if c = '\n' then ⟨cs, cur.line + 1, 0⟩ else ⟨cs, cur.line, cur.column + c.utf8Size⟩

def drop : Nat → Cursor → Cursor
  | 0, cur => cur
  | n + 1, cur => drop n cur.advance

def skipLayout (cur : Cursor) : Cursor :=
  drop (cur.rest.takeWhile Text.isLayout).length cur

/-- The error with the given cause, after everything read so far. -/
def failBehind (cur : Cursor) (cause : Cause) : ReadError := ⟨cause, cur.line, cur.column, []⟩

/-- The error with the given cause at the next byte, or at the end of the text. -/
def failAt (cur : Cursor) (cause : Cause) : ReadError :=
  match cur.rest with
  | [] => ⟨cause, cur.line, cur.column, []⟩
  | '\n' :: _ => ⟨cause, cur.line + 1, 0, []⟩
  | _ :: _ => ⟨cause, cur.line, cur.column + 1, []⟩

end Cursor

/-- The result of reading: a value and what follows it. -/
abbrev Read (α : Type) := Except ReadError (α × Cursor)

def floatOf (cur : Cursor) (negative : Bool) (significand : Nat) (exponent : Int) : Read Number :=
  match Binary64.ofNumeral? significand exponent with
  | some x => .ok (.float { x with negative := negative }, cur)
  | none => .error (cur.failBehind .numberOutOfRange)

/-- The largest significand that is kept exactly; digits beyond it only scale the number. -/
def significandBound : Nat := UInt64.size

def takeDigits (cur : Cursor) : List Char × Cursor :=
  let digits := cur.rest.takeWhile Char.isDigit
  (digits, cur.drop digits.length)

/-- As many of the digits as keep the significand under its bound, and how many there were. -/
def extendSignificand (significand : Nat) (digits : List Char) : Nat × Nat :=
  go significand 0 digits
where
  /-- Stops at the first digit that would exceed the bound. -/
  go (significand used : Nat) : List Char → Nat × Nat
    | [] => (significand, used)
    | d :: ds =>
      let next := significand * 10 + digitValue d
      if next < significandBound then go next (used + 1) ds else (significand, used)

/-- Above the exponents that are kept: those of 31 bits. -/
def exponentBound : Nat := 1 <<< 31

/-- The value of an exponent's digits, or how many of them reach the bound. -/
def exponentValue (digits : List Char) : Nat ⊕ Nat :=
  go 0 0 digits
where
  /-- Counts the digits up to the one that exceeds the range. -/
  go (value count : Nat) : List Char → Nat ⊕ Nat
    | [] => .inl value
    | d :: ds =>
      let next := value * 10 + digitValue d
      if next < exponentBound then go next (count + 1) ds else .inr (count + 1)

/-- The nearest exponent of 32 bits. -/
def clampExponent (e : Int) : Int :=
  if (exponentBound : Int) ≤ e then exponentBound - 1
  else if e < -exponentBound then -exponentBound
  else e

/-- Whether a minus sign is next, and the cursor behind the sign, if there is one. -/
def takeSign (cur : Cursor) : Bool × Cursor :=
  match cur.rest with
  | '-' :: _ => (true, cur.advance)
  | '+' :: _ => (false, cur.advance)
  | _ => (false, cur)

def exponent (cur : Cursor) (negative : Bool) (significand : Nat) (scale : Int) : Read Number :=
  let (down, cur) := takeSign cur.advance
  let (digits, after) := takeDigits cur
  match digits with
  | [] =>
    .error (if cur.rest.isEmpty then cur.failAt .endInValue else cur.failAt .invalidNumber)
  | _ :: _ =>
    match exponentValue digits with
    | .inl e =>
      let e : Int := if down then -e else e
      floatOf after negative significand (clampExponent (scale + e))
    | .inr count =>
      if significand != 0 && !down then .error ((cur.drop count).failBehind .numberOutOfRange)
      else .ok (.float { Binary64.zero with negative := negative }, after)

/-- Finishes a number after the digits of its fraction, if it has one. -/
def afterFraction (cur : Cursor) (negative : Bool) (significand : Nat) (scale : Int) :
    Read Number :=
  match cur.rest with
  | 'e' :: _ | 'E' :: _ => exponent cur negative significand scale
  | _ => floatOf cur negative significand scale

def fraction (cur : Cursor) (negative : Bool) (significand : Nat) (scale : Int) : Read Number :=
  let cur := cur.advance
  let (digits, after) := takeDigits cur
  match digits with
  | [] =>
    .error (if cur.rest.isEmpty then cur.failAt .endInValue else cur.failAt .invalidNumber)
  | _ :: _ =>
    let (significand, used) := extendSignificand significand digits
    afterFraction after negative significand (scale - used)

def number (cur : Cursor) (negative : Bool) : Read Number :=
  let (digits, after) := takeDigits cur
  match digits with
  | [] =>
    .error (if cur.rest.isEmpty then cur.failAt .endInValue else cur.failAt .invalidNumber)
  | '0' :: _ :: _ => .error (cur.advance.failAt .invalidNumber)
  | _ =>
    let (significand, used) := extendSignificand 0 digits
    let scale : Int := digits.length - used
    match after.rest with
    | '.' :: _ => fraction after negative significand scale
    | 'e' :: _ | 'E' :: _ => exponent after negative significand scale
    | _ =>
      if scale ≠ 0 then floatOf after negative significand scale
      else if !negative then .ok (.integer significand, after)
      else if significand = 0 || significand > UInt64.size / 2 then floatOf after true significand 0
      else .ok (.integer (-significand), after)

/-- The cursor after `n` bytes. If that is inside a character, the character's first bytes count and
the character stays. -/
def dropBytes : Nat → Cursor → Cursor
  | 0, cur => cur
  | n + 1, cur =>
    match cur.rest with
    | [] => cur
    | c :: _ =>
      if c.utf8Size ≤ n + 1 then dropBytes (n + 1 - c.utf8Size) cur.advance
      else { cur with column := cur.column + (n + 1) }
  termination_by n => n
  decreasing_by have := c.utf8Size_pos; omega

def fourHex (cur : Cursor) : Read Nat :=
  match cur.rest with
  | a :: b :: c :: d :: _ =>
    match ofDigits? 16 [a, b, c, d] with
    | some unit => .ok (unit, cur.drop 4)
    | none => .error ((dropBytes 4 cur).failBehind .invalidEscape)
  | rest =>
    if Text.byteLength rest < 4 then
      .error ((cur.drop rest.length).failBehind .endInString)
    else .error ((dropBytes 4 cur).failBehind .invalidEscape)

/-- Reads the second half of a surrogate pair, from its backslash on. -/
def lowSurrogate (high : Nat) (cur : Cursor) : Read Char :=
  match cur.rest with
  | [] | ['\\'] => .error ((cur.drop 1).failBehind .endInString)
  | '\\' :: 'u' :: _ =>
    match fourHex (cur.drop 2) with
    | .error e => .error e
    | .ok (low, cur) =>
      if low < 0xDC00 || 0xDFFF < low then .error (cur.failBehind .loneSurrogate)
      else .ok (Char.ofNat ((high - 0xD800) * 1024 + (low - 0xDC00) + 0x10000), cur)
  | '\\' :: _ => .error (cur.advance.failAt .unexpectedEscapeEnd)
  | _ => .error (cur.failAt .unexpectedEscapeEnd)

/-- Reads the rest of an escape after its letter: one code unit, or a pair of surrogates. -/
def unicodeEscape (cur : Cursor) : Read Char :=
  match fourHex cur with
  | .error e => .error e
  | .ok (unit, cur) =>
    if unit < 0xD800 || 0xDFFF < unit then .ok (Char.ofNat unit, cur)
    else if 0xDC00 ≤ unit then .error (cur.failBehind .loneSurrogate)
    else lowSurrogate unit cur

def escape (cur : Cursor) : Read Char :=
  match cur.rest with
  | [] => .error (cur.failBehind .endInString)
  | '"' :: _ => .ok ('"', cur.advance)
  | '\\' :: _ => .ok ('\\', cur.advance)
  | '/' :: _ => .ok ('/', cur.advance)
  | 'b' :: _ => .ok ('\x08', cur.advance)
  | 'f' :: _ => .ok ('\x0c', cur.advance)
  | 'n' :: _ => .ok ('\n', cur.advance)
  | 'r' :: _ => .ok ('\r', cur.advance)
  | 't' :: _ => .ok ('\t', cur.advance)
  | 'u' :: _ => unicodeEscape cur.advance
  | _ :: _ => .error (cur.failAt .invalidEscape)

def stringBody (cur : Cursor) : Read String :=
  go (cur.rest.length + 1) [] cur
where
  /-- Every step takes a character, so the length of the rest bounds their number. -/
  go : Nat → List Char → Cursor → Read String
    | 0, _, cur => .error (cur.failBehind .endInString)
    | steps + 1, taken, cur =>
      match cur.rest with
      | [] => .error (cur.failBehind .endInString)
      | '"' :: _ => .ok (String.ofList taken.reverse, cur.advance)
      | '\\' :: _ =>
        match escape cur.advance with
        | .error e => .error e
        | .ok (c, cur) => go steps (c :: taken) cur
      | c :: _ =>
        if c.toNat < 0x20 then .error (cur.failAt .controlCharacter)
        else go steps (c :: taken) cur.advance

/-- Reads the rest of a word, and gives the value it stands for. -/
def word (v : Value) : List Char → Cursor → Read Value
  | [], cur => .ok (v, cur)
  | c :: cs, cur =>
    match cur.rest with
    | [] => .error (cur.failBehind .endInValue)
    | d :: _ => if c = d then word v cs cur.advance else .error (cur.failAt .expectedIdent)

/-- Reads the items of an array up to its bracket. `first` says that none has been read. -/
def items (value : Cursor → Read Value) : Nat → Bool → Nat → Cursor → Read (List Value)
  | 0, _, _, cur => .error (cur.failAt .endInList)
  | steps + 1, first, index, cur =>
    let cur := cur.skipLayout
    let item (cur : Cursor) : Read (List Value) :=
      match value cur with
      | .error e => .error (e.under (.item index))
      | .ok (v, cur) =>
        match items value steps false (index + 1) cur with
        | .error e => .error e
        | .ok (vs, cur) => .ok (v :: vs, cur)
    match cur.rest with
    | [] => .error (cur.failAt .endInList)
    | ']' :: _ => .ok ([], cur.advance)
    | c :: _ =>
      if first then item cur
      else if c = ',' then
        let cur := cur.advance.skipLayout
        match cur.rest with
        | [] => .error (cur.failAt .endInValue)
        | ']' :: _ => .error (cur.failAt .trailingComma)
        | _ => item cur
      else .error (cur.failAt .expectedListEnd)

/-- Reads the name of an object's next member, or the object's brace, in whose place it gives none.
`first` says that no member has been read. -/
def memberName? (first : Bool) (cur : Cursor) : Read (Option String) :=
  let cur := cur.skipLayout
  let name (cur : Cursor) : Read (Option String) :=
    match stringBody cur.advance with
    | .error e => .error e
    | .ok (name, cur) => .ok (some name, cur)
  match cur.rest with
  | [] => .error (cur.failAt .endInObject)
  | '\x7d' :: _ => .ok (none, cur.advance)
  | c :: _ =>
    if first then
      if c = '"' then name cur else .error (cur.failAt .keyNotString)
    else if c = ',' then
      let cur := cur.advance.skipLayout
      match cur.rest with
      | [] => .error (cur.failAt .endInValue)
      | '"' :: _ => name cur
      | '\x7d' :: _ => .error (cur.failAt .trailingComma)
      | _ => .error (cur.failAt .keyNotString)
    else .error (cur.failAt .expectedObjectEnd)

/-- Reads the members of an object up to its brace. `first` says that none has been read. A name
that cannot be read is a failure inside the object; a colon that is missing is one of the object. -/
def members (value : Cursor → Read Value) :
    Nat → Bool → List (String × Value) → Cursor → Read (List (String × Value))
  | 0, _, _, cur => .error (cur.failAt .endInObject)
  | steps + 1, first, known, cur =>
    match memberName? first cur with
    | .error e => .error (e.under .unnamed)
    | .ok (none, cur) => .ok (known, cur)
    | .ok (some name, cur) =>
      let cur := cur.skipLayout
      match cur.rest with
      | [] => .error (cur.failAt .endInObject)
      | ':' :: _ =>
        match value cur.advance with
        | .error e => .error (e.under (.member name))
        | .ok (v, cur) => members value steps false (setMember name v known) cur
      | _ => .error (cur.failAt .expectedColon)

/-- Reads one value, with at most `depth` arrays and objects around each other in it. -/
def value : Nat → Cursor → Read Value
  | depth, cur =>
    let cur := cur.skipLayout
    match cur.rest with
    | [] => .error (cur.failAt .endInValue)
    | 'n' :: _ => word .null "ull".toList cur.advance
    | 't' :: _ => word (.bool true) "rue".toList cur.advance
    | 'f' :: _ => word (.bool false) "alse".toList cur.advance
    | '-' :: _ =>
      match number cur.advance true with
      | .error e => .error e
      | .ok (n, cur) => .ok (.number n, cur)
    | '"' :: _ =>
      match stringBody cur.advance with
      | .error e => .error e
      | .ok (s, cur) => .ok (.string s, cur)
    | '[' :: _ =>
      match depth with
      | 0 => .error (cur.failAt .nestedTooDeeply)
      | depth + 1 =>
        match items (value depth) (cur.rest.length + 1) true 0 cur.advance with
        | .error e => .error e
        | .ok (vs, cur) => .ok (.array vs, cur)
    | '\x7b' :: _ =>
      match depth with
      | 0 => .error (cur.failAt .nestedTooDeeply)
      | depth + 1 =>
        match members (value depth) (cur.rest.length + 1) true [] cur.advance with
        | .error e => .error e
        | .ok (ms, cur) => .ok (.object ms, cur)
    | c :: _ =>
      if c.isDigit then
        match number cur false with
        | .error e => .error e
        | .ok (n, cur) => .ok (.number n, cur)
      else .error (cur.failAt .expectedValue)

/-- How many arrays and objects may stand around a value, the value included. -/
def maxDepth : Nat := 127

def parse (s : String) : Except ReadError Value :=
  match value maxDepth (Cursor.ofText s) with
  | .error e => .error e
  | .ok (v, cur) =>
    let cur := cur.skipLayout
    if cur.rest.isEmpty then .ok v else .error (cur.failAt .trailingCharacters)

end ZoneGuard.Json
