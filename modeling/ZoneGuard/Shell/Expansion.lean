import ZoneGuard.Shell.Pattern
import ZoneGuard.Shell.State

/-!
# Expansion of words

From a word to the fields that a command gets: parameters, output and arithmetic are put in place,
what came from outside of quotes is cut at separators, and a field that is a pattern becomes the
names of the files it matches.
-/

namespace ZoneGuard.Shell

inductive Bit where
  | mark (m : Mark)
  /-- A character of a value outside of quotes, which may separate fields. -/
  | loose (c : Char)
  /-- Makes a field even if nothing else does. -/
  | present
  /-- Ends a field. -/
  | boundary

def valueBits (isQuoted : Bool) (value : Octets) : List Bit :=
  value.map fun c => if isQuoted then .mark ⟨c, false⟩ else .loose c

/-- The marks that bits give where nothing is cut. -/
def joinedMarks (bits : List Bit) : List Mark :=
  bits.filterMap fun
    | .mark m => some m
    | .loose c => some ⟨c, true⟩
    | .present => none
    | .boundary => some ⟨' ', false⟩

/-- The text that bits give where nothing is cut. -/
def joinedText (bits : List Bit) : Octets := (joinedMarks bits).map (·.char)

/-! ### Parameters -/

inductive Held where
  | unset
  | one (value : Octets)
  /-- All positional parameters, in quotes joined into one text or not. -/
  | all (values : List Octets) (joined : Bool)

def Held.isMissing (orEmpty : Bool) : Held → Bool
  | .unset => true
  | .one value => orEmpty && value.isEmpty
  | .all values _ => orEmpty && values.all List.isEmpty

def separators : Act Octets := do
  return (← Act.valueOf? "IFS".toList).getD " \t\n".toList

def numeral (n : Nat) : Octets := (toString n).toList

def held (name : Octets) : Act Held := do
  let s ← get
  match name with
  | ['@'] => return .all s.parameters false
  | ['*'] => return .all s.parameters true
  | ['#'] => return .one (numeral s.parameters.length)
  | ['?'] => return .one (numeral s.status)
  | ['$'] => return .one (numeral s.shell)
  | ['!'] =>
    match s.latestJob? with
    | some number => return .one (numeral number)
    | none => return .unset
  | ['-'] => return .one ("pubaCEVvxsnmiIfe".toList.filter s.has)
  | ['0'] => return .one s.name
  | _ =>
    if name.all Char.isDigit then
      match s.parameters[decimalOf name - 1]? with
      | some value => return .one value
      | none => return .unset
    else
      match s.bindings.lookup name with
      | some value => return .one value
      | none => return .unset
where
  /-- The number that digits form in base ten. -/
  decimalOf (digits : Octets) : Nat :=
    digitsValue 10 digits

def heldBits (isQuoted : Bool) : Held → Act (List Bit)
  | .unset => return []
  | .one value => return valueBits isQuoted value
  | .all values joined => do
    if isQuoted && joined then
      let separator := ((← separators).head?).toList
      return valueBits true (separator.intercalate values)
    else
      let parts := values.map fun value =>
        (if isQuoted then [Bit.present] else []) ++ valueBits isQuoted value
      return [Bit.boundary].intercalate parts

/-- The bits of a word inside an expansion. Outside of quotes its characters may separate fields. -/
def innerBits (isQuoted : Bool) (bits : List Bit) : List Bit :=
  if isQuoted then bits
  else
    bits.map fun
      | .mark ⟨c, true⟩ => .loose c
      | b => b

def asksForAll (w : Word) : Bool :=
  w.any fun
    | .parameter true ['@'] .plain _ => true
    | _ => false

/-- The bits of a word. `run` gives the output of a script. -/
def expand (run : List Command → Act Octets) : Word → Act (List Bit)
  | [] => return []
  | piece :: rest => do
    let bits ← match piece with
      | .plain c => pure [Bit.mark ⟨c, true⟩]
      | .quoted c => pure [Bit.mark ⟨c, false⟩]
      | .home user => do
        let s ← get
        let home? := if user.isEmpty then s.bindings.lookup "HOME".toList
          else if user = "root".toList then some "/root".toList else none
        pure (valueBits true (home?.getD ('~' :: user)))
      | .quotes => do
        let s ← get
        pure (if s.parameters.isEmpty && asksForAll rest then [] else [Bit.present])
      | .output isQuoted script => do
        pure (valueBits isQuoted (← run script))
      | .arithmetic isQuoted inner => do
        let text := joinedText (← expand run inner)
        let s ← get
        match evaluate text s.bindings with
        | .error e => Act.abort (e.message (Octets.text text))
        | .ok (n, bindings) =>
          set { s with bindings }
          pure (valueBits isQuoted (toString n).toList)
      | .parameter isQuoted name use inner => do
        let value ← held name
        match use with
        | .plain => do
          let s ← get
          if s.has 'u' && value.isMissing false && name != ['@'] && name != ['*'] then
            Act.abort (Octets.text name ++ ": parameter not set")
          else heldBits isQuoted value
        | .length => do
          let text := joinedText (← heldBits true value)
          pure (valueBits isQuoted (numeral text.length))
        | .default orEmpty =>
          if value.isMissing orEmpty then do
            pure (innerBits isQuoted (← expand run inner))
          else heldBits isQuoted value
        | .assign orEmpty =>
          if value.isMissing orEmpty then do
            let text := joinedText (← expand run inner)
            Act.setVariable name text
            pure (valueBits isQuoted text)
          else heldBits isQuoted value
        | .require orEmpty =>
          if value.isMissing orEmpty then do
            let text := joinedText (← expand run inner)
            let text := if !text.isEmpty then Octets.text text
              else "parameter not set" ++ (if orEmpty then " or null" else "")
            Act.abort (Octets.text name ++ ": " ++ text)
          else heldBits isQuoted value
        | .alternative orEmpty =>
          if value.isMissing orEmpty then pure []
          else do
            pure (innerBits isQuoted (← expand run inner))
        | .without atEnd longest => do
          let items := patternOf (joinedMarks (← expand run inner))
          let text := joinedText (← heldBits true value)
          let cut := if atEnd then withoutEnd items longest text
            else withoutBeginning items longest text
          pure (valueBits isQuoted cut)
        | .invalid => Act.abort "Bad substitution"
    return bits ++ (← expand run rest)

/-! ### Fields -/

/-- Fields that have been cut off, the latest first. -/
structure Cutting where
  fields : List (List Mark) := []
  /-- The field that is not finished, its latest mark first. -/
  open? : Option (List Mark) := none
  /-- Whether the latest field was ended by a blank. -/
  afterBlank : Bool := false

namespace Cutting

def close (c : Cutting) : Cutting :=
  match c.open? with
  | some marks => { fields := marks.reverse :: c.fields }
  | none => c

def add (separators : Octets) (c : Cutting) : Bit → Cutting
  | .mark m => { c with open? := some (m :: c.open?.getD []), afterBlank := false }
  | .present => { c with open? := some (c.open?.getD []), afterBlank := false }
  | .boundary => { c.close with afterBlank := false }
  | .loose x =>
    if !separators.contains x then
      { c with open? := some (⟨x, true⟩ :: c.open?.getD []), afterBlank := false }
    else if x == ' ' || x == '\t' || x == '\n' then
      if c.open?.isSome then { c.close with afterBlank := true } else c
    else if c.open?.isSome then c.close
    else if c.afterBlank then { c with afterBlank := false }
    else { c with fields := [] :: c.fields }

end Cutting

def cutFields (separators : Octets) (bits : List Bit) : List (List Mark) :=
  ((bits.foldl (Cutting.add separators) {}).close.fields).reverse

/-! ### File names -/

def patternParts : List Mark → List (List Mark)
  | [] => [[]]
  | m :: ms =>
    if m.char = '/' then [] :: patternParts ms
    else
      match patternParts ms with
      | [] => [[m]]
      | part :: parts => (m :: part) :: parts

def matchingNames (s : State) (directory : Octets) (part : List Mark) : List Octets :=
  let path := if directory.isEmpty then "." else Octets.text directory
  match s.tree.resolve true s.current path with
  | .error _ => []
  | .ok target =>
    let showsHidden := (part.head?.map (·.char)) == some '.'
    let names := [['.'], ['.', '.']] ++ (s.tree.names target.location).map octets
    let found := names.filter fun name =>
      (showsHidden || name.head? != some '.') && isMatch (patternOf part) name
    found.mergeSort Octets.isAtMost

/-- The paths that match the parts of a pattern behind any of the given beginnings. -/
def matchingPaths (s : State) (beginnings : List Octets) : List (List Mark) → List Octets
  | [] => beginnings
  | part :: parts =>
    let ending : Octets := if parts.isEmpty then [] else ['/']
    let next := beginnings.flatMap fun beginning =>
      if isPattern part then
        (matchingNames s beginning part).map fun name => beginning ++ name ++ ending
      else [beginning ++ part.map (·.char) ++ ending]
    matchingPaths s next parts

/-- The texts of a field: the paths that match it, or itself if it is no pattern, none match or
patterns have no meaning. -/
def fieldTexts (s : State) (marks : List Mark) : List Octets :=
  if s.has 'f' || !isPattern marks then [marks.map (·.char)]
  else
    let found := (matchingPaths s [[]] (patternParts marks)).filter fun path =>
      (s.tree.findNamed s.current (Octets.text path)).isOk
    if found.isEmpty then [marks.map (·.char)] else found

section

variable (run : List Command → Act Octets)

def wordFields (w : Word) : Act (List Octets) := do
  let bits ← expand run w
  let s ← get
  return (cutFields (← separators) bits).flatMap (fieldTexts s)

def wordsFields : List Word → Act (List Octets)
  | [] => return []
  | w :: ws => do
    let fields ← wordFields run w
    return fields ++ (← wordsFields ws)

def wordText (w : Word) : Act Octets := do
  return joinedText (← expand run w)

def wordPattern (w : Word) : Act (List PatternItem) := do
  return patternOf (joinedMarks (← expand run w))

end

end ZoneGuard.Shell
