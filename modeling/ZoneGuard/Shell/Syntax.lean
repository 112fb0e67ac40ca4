import ZoneGuard.Text.Utf8

/-!
# Shell scripts

Scripts of the POSIX shell as trees. All texts of a script and of its data are sequences of bytes,
each written as the character of the same number, so that a script may hold and print bytes that are
no text.

The shell, with all of its modules, only serves the program that runs: an engine may be a script
there. What is proved of engines holds of any, and nothing is proved of scripts.
-/

namespace ZoneGuard.Shell

abbrev Octets := List Char

def Octets.ofBytes (bytes : List UInt8) : Octets := bytes.map fun b => Char.ofNat b.toNat

def Octets.toBytes (cs : Octets) : List UInt8 := cs.map fun c => c.toNat.toUInt8

def octets (s : String) : Octets := Octets.ofBytes (Text.encode s)

def Octets.text (cs : Octets) : String := Text.decodeLenient (Octets.toBytes cs)

/-- Whether the first octets do not come behind the second in the order of words. -/
def Octets.isAtMost : Octets → Octets → Bool
  | [], _ => true
  | _ :: _, [] => false
  | a :: as, b :: bs => a.toNat < b.toNat || (a == b && Octets.isAtMost as bs)

def isNameStart (c : Char) : Bool := c.isAlpha || c == '_'

def isNameChar (c : Char) : Bool := c.isAlphanum || c == '_'

inductive ParameterUse where
  | plain
  /-- The number of characters. -/
  | length
  /-- The word if the parameter is unset, or also if it is empty. -/
  | default (orEmpty : Bool)
  | assign (orEmpty : Bool)
  | require (orEmpty : Bool)
  /-- The word if the parameter is set. -/
  | alternative (orEmpty : Bool)
  /-- The value without the part that the word matches, at the end or at the beginning. -/
  | without (atEnd longest : Bool)
  /-- A use that there is not, which is noticed when it is expanded. -/
  | invalid
deriving DecidableEq

/-- Whether the word of the use is a pattern, which quotes around the expansion do not change. -/
def ParameterUse.takesPattern : ParameterUse → Bool
  | .without _ _ => true
  | _ => false

inductive RedirectKind where
  | read
  /-- Empties the file, even if that is not to be done by accident. -/
  | write (always : Bool)
  | append
  | readWrite
  /-- Makes the descriptor a copy of another one, or closes it. -/
  | duplicate
  /-- Reads a text of the script with the given number. -/
  | document (index : Nat)
deriving DecidableEq

/-- How two commands of a list are joined. -/
inductive Joint where
  | always
  | onSuccess
  | onFailure
deriving DecidableEq

mutual

inductive Piece where
  /-- A character without quotes, which may have a meaning in a pattern. -/
  | plain (c : Char)
  | quoted (c : Char)
  /-- The home directory of a user, or by default that of the script. -/
  | home (user : List Char)
  /-- Quotes, which make a field even if it is empty. -/
  | quotes
  | parameter (isQuoted : Bool) (name : List Char) (use : ParameterUse) (word : List Piece)
  /-- The output of a script. -/
  | output (isQuoted : Bool) (script : List Command)
  | arithmetic (isQuoted : Bool) (expression : List Piece)

inductive Redirect where
  | mk (descriptor : Nat) (kind : RedirectKind) (target : List Piece)

inductive Command where
  | simple (line : Nat) (assignments : List (List Char × List Piece)) (words : List (List Piece))
      (redirects : List Redirect)
  /-- Commands joined by pipes; `negated` turns the status around. -/
  | pipeline (negated : Bool) (stages : List Command)
  /-- Commands one after the other, each with its joint to what stands before. -/
  | sequence (first : Command) (rest : List (Joint × Command))
  | background (body : Command)
  | group (body : List Command)
  | subshell (body : List Command)
  | branch (condition body otherwise : List Command)
  | loop (whileTrue : Bool) (condition body : List Command)
  | each (name : List Char) (words? : Option (List (List Piece))) (body : List Command)
  | select (subject : List Piece) (cases : List (List (List Piece) × List Command))
  | define (name : List Char) (body : Command)
  | redirected (line : Nat) (body : Command) (redirects : List Redirect)

end

abbrev Word := List Piece

/-- A script as far as it could be read: the commands of its lines, the texts that stand in it, and
the fault at which reading ended. -/
structure Script where
  commands : List Command := []
  documents : List Word := []
  /-- The line of the fault and what is wrong. -/
  fault? : Option (Nat × String) := none

end ZoneGuard.Shell
