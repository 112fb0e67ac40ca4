import ZoneGuard.Markup.Tag

/-!
# Tags of a document

Finds the tags of a document. Text, comments, character data sections, declarations and processing
instructions are passed over. The scanner takes one character after the other and counts bytes; a
byte order mark at the beginning is not counted. An unfinished closing tag at the end of the
document is accepted, and every other unfinished construct is a fault.

A tag is reported at the last `<` among the bytes that had been counted when it ended.
-/

namespace ZoneGuard.Markup

/-- A construct between angle brackets. -/
inductive Construct where
  | comment
  | dataSection
  | documentType
  | instruction
  | closingTag
  /-- An opening tag, and the quote that is open in it. -/
  | openingTag (quote? : Option Char)
deriving DecidableEq, Repr

/-- Why the tags of a document cannot be found. -/
inductive TokenFault where
  /-- The construct with the given name is unfinished or malformed. -/
  | unexpectedEnd (construct : String)
  /-- After `<!` stands a character, of which only the first byte was looked at. -/
  | unknownDeclaration (byte : Nat)
  | emptyDocumentType
  /-- The attributes of the tag with the given name. -/
  | attributes (tag : String) (fault : AttributeFault)
deriving DecidableEq, Repr

def TokenFault.message : TokenFault → String
  | .unexpectedEnd construct => "Unexpected EOF during reading " ++ construct
  | .unknownDeclaration byte =>
    "Only Comment (\x60--\x60), CDATA (\x60[CDATA[\x60) and DOCTYPE (\x60DOCTYPE\x60) nodes can "
      ++ "start with a '!', but symbol \x60" ++ String.singleton (Char.ofNat byte) ++ "\x60 found"
  | .emptyDocumentType => "DOCTYPE declaration must not be empty"
  | .attributes tag fault => "in <" ++ tag ++ ">: " ++ fault.message

/-- Where the scanner is. -/
inductive Mode where
  | text
  /-- After a `<`. -/
  | bracket
  /-- After a `<!`; the first byte after the bracket is at `start`. -/
  | bang (start : Nat)
  /-- Inside a construct whose characters so far, the ones after the bracket, stand last first. -/
  | inside (construct : Construct) (start : Nat) (taken : List Char)
deriving DecidableEq, Repr

/-- A tag, and the count of bytes at its end. -/
structure ScannedTag where
  tag : Tag
  stop : Nat
deriving DecidableEq, Repr

/-- The state of the scanner: where it is, how many bytes it has counted, and the tags found so far,
the latest first. -/
structure Scanner where
  mode : Mode
  position : Nat
  found : List ScannedTag
deriving DecidableEq, Repr

/-- A fault, and the count of bytes when it was noticed. -/
structure ScanFault where
  fault : TokenFault
  position : Nat
deriving DecidableEq, Repr

namespace Scanner

def initial : Scanner := ⟨.text, 0, []⟩

/-- Whether the characters begin with the pattern, in either case of letters. -/
def beginsWith (pattern : List Char) (cs : List Char) : Bool :=
  (cs.take pattern.length).map Char.toLower == pattern.map Char.toLower

/-- The fault of a finished comment, section, declaration or instruction, if it has one, given its
characters and the position where it ends. -/
def check (construct : Construct) (stop : Nat) (content : List Char) : Except ScanFault Unit :=
  match construct with
  | .comment =>
    if "!--".toList.isPrefixOf content then .ok ()
    else .error ⟨.unexpectedEnd "Comment", stop⟩
  | .dataSection =>
    if beginsWith "![CDATA[".toList content then .ok ()
    else .error ⟨.unexpectedEnd "CData", stop⟩
  | .documentType =>
    if !beginsWith "!DOCTYPE".toList content then .error ⟨.unexpectedEnd "DOCTYPE", stop⟩
    else if (content.drop 8).all Text.isLayout then .error ⟨.emptyDocumentType, stop⟩
    else .ok ()
  | .instruction =>
    if 2 < content.length && content.getLast? == some '?' then .ok ()
    else .error ⟨.unexpectedEnd "XmlDecl", stop - Text.byteLength content⟩
  | .closingTag | .openingTag _ => .ok ()

/-- Whether a `>` after the given characters, which stand last first, ends the construct. -/
def isEnd (construct : Construct) (taken : List Char) : Bool :=
  match construct with
  | .comment => 5 ≤ taken.length && "--".toList.isPrefixOf taken
  | .dataSection => "]]".toList.isPrefixOf taken
  | .documentType => taken.count '<' == taken.count '>'
  | .openingTag quote? => quote?.isNone
  | .instruction | .closingTag => true

def extend (construct : Construct) (c : Char) : Construct :=
  match construct with
  | .openingTag none => .openingTag (if c = '"' || c = '\'' then some c else none)
  | .openingTag (some quote) => .openingTag (if c = quote then none else some quote)
  | construct => construct

/-- The tags that a construct stands for, given its characters and the position where it ends. -/
def complete (construct : Construct) (stop : Nat) (content : List Char) :
    Except ScanFault (List ScannedTag) :=
  match construct with
  | .closingTag => .ok [⟨closingTag (content.drop 1), stop⟩]
  | .openingTag _ =>
    match openingTag content with
    | .ok tag => .ok [⟨tag, stop⟩]
    | .error (name, fault) => .error ⟨.attributes name fault, stop⟩
  | construct => (check construct stop content).map fun _ => []

/-- The mode after the first character behind a bracket, which is at `start`. -/
def enter (start : Nat) (c : Char) : Mode :=
  if c = '!' then .bang start
  else if c = '/' then .inside .closingTag start [c]
  else if c = '?' then .inside .instruction start [c]
  else .inside (extend (.openingTag none) c) start [c]

def leadByte (c : Char) : Nat := ((String.utf8EncodeChar c).head?.getD 0).toNat

def enterDeclaration (start : Nat) (c : Char) : Except ScanFault Mode :=
  if c = '[' then .ok (.inside .dataSection start [c, '!'])
  else if c = '-' then .ok (.inside .comment start [c, '!'])
  else if c = 'D' || c = 'd' then .ok (.inside .documentType start [c, '!'])
  else .error ⟨.unknownDeclaration (leadByte c), start⟩

def next (s : Scanner) (c : Char) : Except ScanFault Scanner :=
  let position := s.position + c.utf8Size
  match s.mode with
  | .text => .ok { s with mode := if c = '<' then .bracket else .text, position }
  | .bracket =>
    if c = '>' then
      (complete (.openingTag none) position []).map fun tags =>
        ⟨.text, position, tags ++ s.found⟩
    else .ok { s with mode := enter s.position c, position }
  | .bang start => (enterDeclaration start c).map fun mode => { s with mode, position }
  | .inside construct start taken =>
    if c = '>' && isEnd construct taken then
      (complete construct position taken.reverse).map fun tags =>
        ⟨.text, position, tags ++ s.found⟩
    else .ok { s with mode := .inside (extend construct c) start (c :: taken), position }

def run (s : Scanner) : List Char → Except ScanFault Scanner
  | [] => .ok s
  | c :: cs =>
    match s.next c with
    | .error e => .error e
    | .ok s => run s cs

def finish (s : Scanner) : Except ScanFault (List ScannedTag) :=
  match s.mode with
  | .text | .bracket => .ok s.found.reverse
  | .bang start => .error ⟨.unexpectedEnd "Bang", start⟩
  | .inside .comment start _ => .error ⟨.unexpectedEnd "Comment", start⟩
  | .inside .dataSection start _ => .error ⟨.unexpectedEnd "CData", start⟩
  | .inside .documentType start _ => .error ⟨.unexpectedEnd "DOCTYPE", start⟩
  | .inside (.openingTag _) start _ => .error ⟨.unexpectedEnd "Element", start⟩
  | .inside construct _ taken =>
    (complete construct s.position taken.reverse).map fun tags => (tags ++ s.found).reverse

end Scanner

/-- The document without a byte order mark at its beginning. -/
def withoutMark : List Char → List Char
  | '\uFEFF' :: cs => cs
  | cs => cs

/-- The tags of a document with the counts of bytes at their ends. -/
def scan (document : List Char) : Except ScanFault (List ScannedTag) :=
  match Scanner.initial.run (withoutMark document) with
  | .error e => .error e
  | .ok s => s.finish

/-- The place of the last `<` in the first `stop` bytes of the document. It is `stop` itself if
there is none, or if a character reaches over that boundary. -/
def tagOffset (document : List Char) (stop : Nat) : Nat :=
  go none 0 document
where
  /-- Reads on from byte `here`, past the last `<` found so far. -/
  go (last? : Option Nat) (here : Nat) : List Char → Nat
    | [] => if here = stop then last?.getD stop else stop
    | c :: cs =>
      if stop < here then stop
      else if here = stop then last?.getD stop
      else go (if c = '<' then some here else last?) (here + c.utf8Size) cs

/-- A tag and the place where it is reported. -/
structure Token where
  tag : Tag
  offset : Nat
deriving DecidableEq, Repr

/-- A fault and the place where it is reported. -/
structure LocatedFault where
  fault : TokenFault
  offset : Nat
deriving DecidableEq, Repr

/-- The place where a fault is reported: for attributes, the place of their tag. -/
def ScanFault.locate (document : List Char) (e : ScanFault) : LocatedFault :=
  match e.fault with
  | .attributes .. => ⟨e.fault, tagOffset document e.position⟩
  | _ => ⟨e.fault, e.position⟩

def tokens (document : List Char) : Except LocatedFault (List Token) :=
  match scan document with
  | .error e => .error (e.locate document)
  | .ok tags => .ok (tags.map fun t => ⟨t.tag, tagOffset document t.stop⟩)

end ZoneGuard.Markup
