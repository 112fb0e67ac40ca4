/-!
# Cutting and replacing

Cuts at a separator and replacement of every occurrence of a pattern, on lists of characters. A
pattern is searched from left to right, and an occurrence that has been replaced is not looked at
again.
-/

namespace ZoneGuard.Text

/-- The parts between the separators, in order. There is always one part more than there are
separators. -/
def splitAtEach (separator : Char) : List Char → List (List Char)
  | [] => [[]]
  | c :: cs =>
    if c = separator then [] :: splitAtEach separator cs
    else
      match splitAtEach separator cs with
      | [] => [[c]]
      | part :: parts => (c :: part) :: parts

/-- What follows the last separator; everything if there is none. -/
def afterLast (separator : Char) (cs : List Char) : List Char :=
  (cs.reverse.takeWhile (· != separator)).reverse

/-- What precedes the first separator; everything if there is none. -/
def beforeFirst (separator : Char) (cs : List Char) : List Char :=
  cs.takeWhile (· != separator)

/-- The characters with each occurrence of `pattern` replaced by `value`. Occurrences are taken from
left to right and do not overlap. -/
def replaceAll (pattern value : List Char) (cs : List Char) : List Char :=
  go 0 cs
where
  /-- Passes over the `skip` characters that belong to an occurrence replaced already. -/
  go : Nat → List Char → List Char
    | _, [] => []
    | skip + 1, _ :: cs => go skip cs
    | 0, c :: cs =>
      if pattern.isPrefixOf (c :: cs) then value ++ go (pattern.length - 1) cs else c :: go 0 cs

def replace (pattern value text : String) : String :=
  String.ofList (replaceAll pattern.toList value.toList text.toList)

example : replace "ab" "x" "aababc" = "axxc" := by decide

end ZoneGuard.Text
