import ZoneGuard.Json.Reader

/-!
# Reading JSON from bytes

Bytes are read as the text that they encode. If they encode none, reading gets as far as it can:
outside of strings a byte that is no character fails like any character that may not stand there,
while a string is read to its closing quote before its bytes are found to be at fault.
-/

namespace ZoneGuard.Json

/-- The bytes as characters, of which the second part begins at the first fault. There a control
character marks the fault, and behind it every byte that is not ASCII becomes one that a string may
contain. Both take one byte, so places are kept. -/
def markFault (bytes : List UInt8) : List Char × List Char :=
  let (before, behind) := Text.splitFault bytes
  (before, '\x01' :: behind.tail.map fun b => if b < 0x80 then Char.ofNat b.toNat else '\x7f')

/-- The error about the bytes, given the one about their characters. If that one is about the mark,
the mark is in a string, and the string may have another fault before it ends. -/
def faultError (mark : Cursor) (e : ReadError) : ReadError :=
  if { e with path := [] } = mark.failAt .controlCharacter then
    match stringBody mark.advance with
    | .error inner => { inner with path := e.path }
    | .ok (_, cur) => { cur.failBehind .invalidCodePoint with path := e.path }
  else e

def parseBytes (bytes : List UInt8) : Except ReadError Value :=
  match Text.decode? bytes with
  | some s => parse s
  | none =>
    let (before, marked) := markFault bytes
    let cur : Cursor := .ofText (String.ofList (before ++ marked))
    (parse (String.ofList (before ++ marked))).mapError (faultError (cur.drop before.length))

end ZoneGuard.Json
