import ZoneGuard.Text.Splice

/-!
# Paths

Paths as text. A path is a sequence of components; separators behind a component and components `.`
other than a first one do not count.
-/

namespace ZoneGuard.Files

/-- A component of a path. -/
inductive Component where
  | root
  | current
  | parent
  | name (text : String)
deriving DecidableEq, Repr

/-- The component that a part between separators stands for, if it counts. -/
def componentOf? (isFirst : Bool) (part : List Char) : Option Component :=
  match part with
  | [] => none
  | ['.'] => if isFirst then some .current else none
  | ['.', '.'] => some .parent
  | part => some (.name (String.ofList part))

def components (path : String) : List Component :=
  match Text.splitAtEach '/' path.toList with
  | [] => []
  | first :: rest =>
    let start :=
      if first.isEmpty && !rest.isEmpty then some .root else componentOf? true first
    start.toList ++ rest.filterMap (componentOf? false)

/-- Whether the path is a name, so that it denotes an entry of any directory it is joined to. -/
def isPlainName (path : String) : Bool :=
  match components path with
  | [.name _] => true
  | _ => false

def isAbsolute (path : String) : Bool := path.toList.head? == some '/'

/-- The second path seen from the first. -/
def join (base path : String) : String :=
  if isAbsolute path || base.isEmpty then path
  else if base.toList.getLast? == some '/' then base ++ path
  else base ++ "/" ++ path

def parent (path : String) : String :=
  let cs := path.toList
  String.ofList (cs.take (cs.length - (Text.afterLast '/' cs).length))

example : parent "/a/b" = "/a/" ∧ parent "b" = "" := by decide

example : components "a/./b/" = [.name "a", .name "b"] := by decide

example : isPlainName "a/." = true ∧ isPlainName "./a" = false := by decide

end ZoneGuard.Files
