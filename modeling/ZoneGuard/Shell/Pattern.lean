import ZoneGuard.Shell.Syntax

/-!
# Patterns

Patterns that a whole text has to match: a star stands for any text, a question mark for any
character, and brackets for one of the characters between them.
-/

namespace ZoneGuard.Shell

/-- A character of an expanded word, and whether it may have a meaning in a pattern. -/
structure Mark where
  char : Char
  isActive : Bool
deriving DecidableEq

inductive PatternItem where
  | anyText
  | anyChar
  | literal (c : Char)
  /-- One of the characters in the ranges, or one in none of them. -/
  | oneOf (negated : Bool) (ranges : List (Char × Char))
deriving DecidableEq

/-- The ranges between brackets, and what follows the closing one. A bracket that stands first is a
character. -/
def bracketRanges : Bool → List Mark → Option (List (Char × Char) × List Mark)
  | _, [] => none
  | isFirst, low :: ⟨'-', dashActive⟩ :: high :: rest =>
    if low = ⟨']', true⟩ && !isFirst then some ([], ⟨'-', dashActive⟩ :: high :: rest)
    else if high = ⟨']', true⟩ then
      some ([(low.char, low.char), ('-', '-')], rest)
    else
      (bracketRanges false rest).map fun (ranges, rest) => ((low.char, high.char) :: ranges, rest)
  | isFirst, m :: rest =>
    if m = ⟨']', true⟩ && !isFirst then some ([], rest)
    else (bracketRanges false rest).map fun (ranges, rest) => ((m.char, m.char) :: ranges, rest)

/-- The pattern that marks describe. Each step passes a mark. -/
def patternItems : Nat → List Mark → List PatternItem
  | 0, _ | _, [] => []
  | steps + 1, m :: rest =>
    if !m.isActive then .literal m.char :: patternItems steps rest
    else
      match m.char with
      | '*' => .anyText :: patternItems steps rest
      | '?' => .anyChar :: patternItems steps rest
      | '[' =>
        let negated := match rest with
          | ⟨'!', true⟩ :: _ | ⟨'^', true⟩ :: _ => true
          | _ => false
        match bracketRanges true (if negated then rest.drop 1 else rest) with
        | some (ranges, rest) => .oneOf negated ranges :: patternItems steps rest
        | none => .literal '[' :: patternItems steps rest
      | c => .literal c :: patternItems steps rest

def patternOf (marks : List Mark) : List PatternItem := patternItems marks.length marks

def isPattern (marks : List Mark) : Bool :=
  marks.any fun m => m.isActive && "*?[".toList.contains m.char

def rests : Octets → List Octets
  | [] => [[]]
  | c :: cs => (c :: cs) :: rests cs

def PatternItem.admits (item : PatternItem) (c : Char) : Bool :=
  match item with
  | .anyText | .anyChar => true
  | .literal d => c == d
  | .oneOf negated ranges => ranges.any (fun (low, high) => low ≤ c && c ≤ high) != negated

def isMatch : List PatternItem → Octets → Bool
  | [], cs => cs.isEmpty
  | .anyText :: items, cs => (rests cs).any (isMatch items)
  | _ :: _, [] => false
  | item :: items, c :: cs => item.admits c && isMatch items cs

/-- The text without its shortest or longest end that the pattern matches. -/
def withoutEnd (items : List PatternItem) (longest : Bool) (cs : Octets) : Octets :=
  let candidates := (rests cs).filter (isMatch items)
  match if longest then candidates.head? else candidates.getLast? with
  | some tail => cs.take (cs.length - tail.length)
  | none => cs

/-- The text without its shortest or longest beginning that the pattern matches. -/
def withoutBeginning (items : List PatternItem) (longest : Bool) (cs : Octets) : Octets :=
  let candidates := (rests cs).filter fun tail => isMatch items (cs.take (cs.length - tail.length))
  match if longest then candidates.getLast? else candidates.head? with
  | some tail => tail
  | none => cs

example : isMatch (patternOf ("a*.[x-z]".toList.map (⟨·, true⟩))) "a.b.y".toList = true := by decide

end ZoneGuard.Shell
