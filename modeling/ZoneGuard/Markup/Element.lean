import ZoneGuard.Markup.Token

/-!
# Element trees

The tree of a document with a single root. Elements are closed in the reverse order of their
opening, each by a closing tag of its own name, and at most 256 elements stand around an element.
-/

namespace ZoneGuard.Markup

/-- An element. Its offset is the place of its opening tag. -/
structure Element where
  name : String
  attributes : List (String × String)
  children : List Element
  offset : Nat

/-- How many elements may stand around an element. -/
def maxDepth : Nat := 256

/-- Why a sequence of tags is not a document. -/
inductive NestingFault where
  | closingBeforeRoot
  | missingRoot
  | contentAfterRoot
  | tooDeep
  | unclosed (name : String) (offset : Nat)
  | mismatch (closing expected : String)
deriving DecidableEq, Repr

def NestingFault.message : NestingFault → String
  | .closingBeforeRoot => "closing tag before any root element"
  | .missingRoot => "missing root element"
  | .contentAfterRoot => "content after the root element"
  | .tooDeep => "elements nested too deeply"
  | .unclosed name offset =>
    "element <" ++ name ++ "> opened at byte " ++ toString offset ++ " is never closed"
  | .mismatch closing expected =>
    "mismatched closing tag </" ++ closing ++ ">, expected </" ++ expected ++ ">"

/-- An element whose closing tag has not come. Its children so far stand last first. -/
structure OpenElement where
  name : String
  attributes : List (String × String)
  offset : Nat
  children : List Element

namespace OpenElement

def add (o : OpenElement) (child : Element) : OpenElement :=
  { o with children := child :: o.children }

def close (o : OpenElement) : Element := ⟨o.name, o.attributes, o.children.reverse, o.offset⟩

end OpenElement

/-- How much of a document has been read: nothing, some open elements with the innermost first, or
all of the root. -/
inductive Builder where
  | empty
  | building (innermost : OpenElement) (outer : List OpenElement)
  | finished (root : Element)

/-- A fault, and the place where it is reported. -/
structure LocatedNestingFault where
  fault : NestingFault
  offset : Nat
deriving DecidableEq, Repr

namespace Builder

def close (e : Element) : List OpenElement → Builder
  | [] => .finished e
  | o :: outer => .building (o.add e) outer

def «open» (outer : List OpenElement) (name : String) (attributes : List (String × String))
    (selfClosing : Bool) (offset : Nat) : Except LocatedNestingFault Builder :=
  if maxDepth < outer.length then .error ⟨.tooDeep, offset⟩
  else if selfClosing then .ok (close ⟨name, attributes, [], offset⟩ outer)
  else .ok (.building ⟨name, attributes, offset, []⟩ outer)

def next (b : Builder) (t : Token) : Except LocatedNestingFault Builder :=
  match b, t.tag with
  | .finished _, _ => .error ⟨.contentAfterRoot, t.offset⟩
  | .empty, .closing _ => .error ⟨.closingBeforeRoot, t.offset⟩
  | .empty, .opening name attributes selfClosing =>
    «open» [] name attributes selfClosing t.offset
  | .building o outer, .opening name attributes selfClosing =>
    «open» (o :: outer) name attributes selfClosing t.offset
  | .building o outer, .closing name =>
    if name = o.name then .ok (close o.close outer)
    else .error ⟨.mismatch name o.name, t.offset⟩

def run (b : Builder) : List Token → Except LocatedNestingFault Builder
  | [] => .ok b
  | t :: ts =>
    match b.next t with
    | .error e => .error e
    | .ok b => run b ts

/-- The root of a document that ends at byte `stop`. -/
def finish (stop : Nat) : Builder → Except LocatedNestingFault Element
  | .empty => .error ⟨.missingRoot, stop⟩
  | .building o _ => .error ⟨.unclosed o.name o.offset, stop⟩
  | .finished root => .ok root

end Builder

namespace Element

/-- The root of a document of `stop` bytes with the given tags. -/
def ofTokens (tokens : List Token) (stop : Nat) : Except LocatedNestingFault Element :=
  match Builder.run .empty tokens with
  | .error e => .error e
  | .ok b => b.finish stop

def attribute? (e : Element) (key : String) : Option String := e.attributes.lookup key

def childrenNamed (e : Element) (name : String) : List Element :=
  e.children.filter (·.name == name)

mutual

/-- The element and the elements inside it, each before the ones inside it. -/
def documentOrder (e : Element) : List Element :=
  match e with
  | ⟨name, attributes, children, offset⟩ =>
    ⟨name, attributes, children, offset⟩ :: documentOrderOfAll children

/-- The elements and the elements inside them, each before the ones inside it. -/
def documentOrderOfAll : List Element → List Element
  | [] => []
  | e :: es => e.documentOrder ++ documentOrderOfAll es

end

mutual

/-- The number of elements in the tree, its root included. -/
def size (e : Element) : Nat :=
  match e with
  | ⟨_, _, children, _⟩ => sizeOfAll children + 1

def sizeOfAll : List Element → Nat
  | [] => 0
  | e :: es => e.size + sizeOfAll es

end

theorem size_eq (e : Element) : e.size = sizeOfAll e.children + 1 := by
  cases e
  rw [size]

theorem sizeOfAll_append (es fs : List Element) :
    sizeOfAll (es ++ fs) = sizeOfAll es + sizeOfAll fs := by
  induction es with
  | nil => exact (Nat.zero_add _).symm
  | cons e es ih => rw [List.cons_append, sizeOfAll, sizeOfAll, ih, Nat.add_assoc]

/-- Visits the trees on a stack, whose top stands first. An element that is visited makes room for
its children. The elements visited so far stand last first. -/
def visit (visited : List Element) : List Element → List Element
  | [] => visited.reverse
  | e :: stack => visit (e :: visited) (e.children ++ stack)
termination_by stack => sizeOfAll stack
decreasing_by
  rw [sizeOfAll_append, sizeOfAll, size_eq]
  omega

/-- The element and the elements inside it, in the order in which they are visited. -/
def walk (e : Element) : List Element := visit [] [e]

end Element

/-- Why a text is not a document. -/
inductive DocumentFault where
  | token (fault : TokenFault)
  | nesting (fault : NestingFault)
deriving DecidableEq, Repr

def DocumentFault.message : DocumentFault → String
  | .token fault => fault.message
  | .nesting fault => fault.message

/-- A fault of a document, and the place where it is reported. -/
structure DocumentError where
  fault : DocumentFault
  offset : Nat
deriving DecidableEq, Repr

/-- The root element of a document. All tags are found before their nesting is looked at. -/
def Element.ofText (document : String) : Except DocumentError Element :=
  match tokens document.toList with
  | .error e => .error ⟨.token e.fault, e.offset⟩
  | .ok ts =>
    match Element.ofTokens ts document.utf8ByteSize with
    | .error e => .error ⟨.nesting e.fault, e.offset⟩
    | .ok root => .ok root

end ZoneGuard.Markup
