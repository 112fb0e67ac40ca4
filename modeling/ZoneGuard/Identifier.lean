import ZoneGuard.Text.Splice

/-!
# Identifiers and atoms

Ids of entities are free text. Inside a specification an entity is named by an identifier made from
its id: an ASCII letter followed by ASCII letters, digits and underscores. With the prefix of the
entity's kind the identifier becomes the entity's atom, so entities of different kinds never share
an atom. An engine reports an atom with a namespace before it and a number behind it; cleaning a
reported label takes both away, and the prefix too.
-/

namespace ZoneGuard

/-- Whether the character may stand anywhere but at the beginning of an identifier. -/
def isWordChar (c : Char) : Bool := c.isAlphanum || c == '_'

/-- An ASCII letter followed by ASCII letters, digits and underscores. -/
def IsIdentifier : List Char → Prop
  | [] => False
  | c :: cs => c.isAlpha = true ∧ ∀ d ∈ cs, isWordChar d = true

instance : DecidablePred IsIdentifier := fun cs =>
  match cs with
  | [] => isFalse id
  | c :: cs => decidable_of_iff ((c.isAlpha && cs.all isWordChar) = true) (by simp [IsIdentifier])

/-- A name that can stand in a specification. -/
structure Identifier where
  text : String
  isIdentifier : IsIdentifier text.toList
deriving DecidableEq

/-- The character itself if an identifier may contain it, and an underscore otherwise. -/
def toWordChar (c : Char) : Char := if isWordChar c then c else '_'

theorem isWordChar_toWordChar (c : Char) : isWordChar (toWordChar c) = true := by
  unfold toWordChar
  split
  · assumption
  · decide

/-- The characters of an identifier made from a text. -/
def identifierChars (raw : List Char) : List Char :=
  match raw.map toWordChar with
  | [] => ['i', 'd', '_']
  | c :: cs => if c.isAlpha then c :: cs else 'i' :: 'd' :: '_' :: c :: cs

theorem isIdentifier_identifierChars (raw : List Char) : IsIdentifier (identifierChars raw) := by
  have hword : ∀ d ∈ raw.map toWordChar, isWordChar d = true := by
    intro d hd
    obtain ⟨c, _, rfl⟩ := List.mem_map.1 hd
    exact isWordChar_toWordChar c
  unfold identifierChars
  split
  · decide
  · next c cs h =>
    rw [h] at hword
    split
    · next hc => exact ⟨hc, fun d hd => hword d (List.mem_cons_of_mem c hd)⟩
    · refine ⟨by decide, fun d hd => ?_⟩
      rcases List.mem_cons.1 hd with rfl | hd
      · decide
      · rcases List.mem_cons.1 hd with rfl | hd
        · decide
        · exact hword d hd

/-- The identifier made from a text: characters that it may not contain become underscores, and
`id_` goes before a beginning that is no letter. -/
def Identifier.ofText (raw : String) : Identifier where
  text := String.ofList (identifierChars raw.toList)
  isIdentifier := by
    rw [String.toList_ofList]
    exact isIdentifier_identifierChars raw.toList

/-- The four kinds of entity. -/
inductive EntityKind where
  | location
  | data
  | system
  | connection
deriving DecidableEq, Repr

namespace EntityKind

def all : List EntityKind := [.location, .data, .system, .connection]

/-- The signature that atoms of the kind extend. It also names the kind in messages. -/
def signature : EntityKind → String
  | .location => "Location"
  | .data => "Data"
  | .system => "System"
  | .connection => "Connection"

/-- What stands before the identifier in an atom of the kind. -/
def atomPrefix (kind : EntityKind) : String := kind.signature ++ "_"

def atomLabel (kind : EntityKind) (id : Identifier) : String := kind.atomPrefix ++ id.text

end EntityKind

/-- What is left of a label after its namespace, its number and the prefix of a kind. -/
def cleanLabelChars (label : List Char) : List Char :=
  let base := Text.beforeFirst '$' (Text.afterLast '/' label)
  let stripped? := EntityKind.all.findSome? fun kind =>
    List.isPrefixOf? kind.atomPrefix.toList base
  stripped?.getD base

/-- The identifier that an engine's atom label stands for: what follows the last slash, up to the
first dollar sign, without the prefix of a kind. -/
def cleanLabel (label : String) : String :=
  String.ofList (cleanLabelChars label.toList)

example : cleanLabel "this/System_Data_x$0" = "Data_x" := by decide +kernel

end ZoneGuard
