import ZoneGuard.Markup.Entity
import ZoneGuard.Text.Blank
import ZoneGuard.Text.Utf8

/-!
# Tags

What stands between the angle brackets of a tag: a name and, in opening tags, attributes with quoted
values. An opening tag that ends in a slash has no closing tag. Attributes are read character by
character; a fault is reported with its byte position inside the brackets.
-/

namespace ZoneGuard.Markup

/-- A tag with its attributes in order. -/
inductive Tag where
  | opening (name : String) (attributes : List (String × String)) (selfClosing : Bool)
  | closing (name : String)
deriving DecidableEq, Repr

/-- Why the attributes of a tag cannot be read. Positions count bytes. -/
inductive AttributeFault where
  | missingEquals (position : Nat)
  | missingValue (position : Nat)
  | unquotedValue (position : Nat)
  | unclosedQuote (position : Nat) (quote : Char)
  | duplicate (position previous : Nat)
deriving DecidableEq, Repr

def AttributeFault.message : AttributeFault → String
  | .missingEquals p =>
    "position " ++ toString p ++ ": attribute key must be directly followed by \x60=\x60 or space"
  | .missingValue p =>
    "position " ++ toString p ++ ": \x60=\x60 must be followed by an attribute value"
  | .unquotedValue p =>
    "position " ++ toString p ++ ": attribute value must be enclosed in \x60\"\x60 or \x60'\x60"
  | .unclosedQuote p quote =>
    "position " ++ toString p ++ ": missing closing quote \x60" ++ String.singleton quote
      ++ "\x60 in attribute value"
  | .duplicate p previous =>
    "position " ++ toString p ++ ": duplicated attribute, previous declaration at position "
      ++ toString previous

/-- An attribute that has been read: its key, where the key begins, and its value as written. -/
structure WrittenAttribute where
  key : List Char
  position : Nat
  value : List Char

/-- How far the reading of attributes has come. Characters read so far stand last first. -/
inductive AttributeState where
  /-- Before a key. -/
  | start
  /-- Inside the key that begins at the position. -/
  | key (position : Nat) (taken : List Char)
  /-- Between a key and its equals sign. -/
  | afterKey (position : Nat) (taken : List Char)
  /-- Between an equals sign and the value. -/
  | beforeValue (position : Nat) (key : List Char)
  /-- Inside a value. -/
  | value (position : Nat) (key : List Char) (quote : Char) (taken : List Char)

namespace AttributeState

/-- The state after the equals sign behind a key, which must be a new one. -/
def afterEquals (known : List WrittenAttribute) (position : Nat) (taken : List Char) :
    Except AttributeFault AttributeState :=
  let key := taken.reverse
  match known.find? (·.key == key) with
  | some previous => .error (.duplicate position previous.position)
  | none => .ok (.beforeValue position key)

/-- The state after one more character, which begins at byte `here`, and the attribute that it
completes. -/
def next (known : List WrittenAttribute) (here : Nat) (c : Char) :
    AttributeState → Except AttributeFault (AttributeState × List WrittenAttribute)
  | start => .ok (if Text.isLayout c then start else key here [c], known)
  | key p taken =>
    if c = '=' then (afterEquals known p taken).map (·, known)
    else if Text.isLayout c then .ok (afterKey p taken, known)
    else .ok (key p (c :: taken), known)
  | afterKey p taken =>
    if c = '=' then (afterEquals known p taken).map (·, known)
    else if Text.isLayout c then .ok (afterKey p taken, known)
    else .error (.missingEquals here)
  | beforeValue p k =>
    if Text.isLayout c then .ok (beforeValue p k, known)
    else if c = '"' || c = '\'' then .ok (value p k c [], known)
    else .error (.unquotedValue here)
  | value p k quote taken =>
    if c = quote then .ok (start, known ++ [⟨k, p, taken.reverse⟩])
    else .ok (value p k quote (c :: taken), known)

/-- The fault of a tag that ends at byte `here`, if it has one. -/
def finish (here : Nat) : AttributeState → Except AttributeFault Unit
  | start => .ok ()
  | key .. | afterKey .. => .error (.missingEquals here)
  | beforeValue .. => .error (.missingValue here)
  | value _ _ quote _ => .error (.unclosedQuote here quote)

end AttributeState

/-- The attributes in the characters from byte `here` on, after the ones that are known. -/
def writtenAttributes (known : List WrittenAttribute) (state : AttributeState) (here : Nat) :
    List Char → Except AttributeFault (List WrittenAttribute)
  | [] =>
    match state.finish here with
    | .error e => .error e
    | .ok () => .ok known
  | c :: cs =>
    match state.next known here c with
    | .error e => .error e
    | .ok (state, known) => writtenAttributes known state (here + c.utf8Size) cs

/-- The name of an opening tag: everything before the first layout. -/
def tagName (content : List Char) : List Char :=
  content.takeWhile fun c => !Text.isLayout c

/-- The opening tag with the given content. A fault comes with the name of the tag. -/
def openingTag (content : List Char) : Except (String × AttributeFault) Tag :=
  let selfClosing := content.getLast? == some '/'
  let body := if selfClosing then content.dropLast else content
  let name := tagName body
  let text := String.ofList name
  match writtenAttributes [] .start (Text.byteLength name) (body.drop name.length) with
  | .error e => .error (text, e)
  | .ok written =>
    .ok (.opening text (written.map fun a => (String.ofList a.key, valueText a.value)) selfClosing)

/-- The closing tag with the given content after its slash. Layout behind the name does not count,
unless there is nothing else. -/
def closingTag (content : List Char) : Tag :=
  let name := (content.reverse.dropWhile Text.isLayout).reverse
  .closing (String.ofList (if name.isEmpty then content else name))

end ZoneGuard.Markup
