import ZoneGuard.Files.Tree
import ZoneGuard.Text.Blank

/-!
# Executing files

What runs when a path is executed. A file whose first line begins with `#!` is run by the program
that the line names, which gets the path of the file as an argument. A name without separators is
looked for in a list of directories.
-/

namespace ZoneGuard.Files

/-- A program that is about to run. -/
structure Execution where
  /-- The name by which the program is known. -/
  program : String
  /-- The name by which it is called. -/
  name : String
  /-- The arguments in front of those that are given. -/
  front : List String := []
deriving DecidableEq, Repr

/-- The greatest number of bytes of a first line that count. -/
def maxFirstLine : Nat := 255

/-- The interpreter that a content names in its first line, and the one argument that may follow. -/
def interpreter? (content : List UInt8) : Option (String × Option String) :=
  let isGap (c : Char) : Bool := c == ' ' || c == '\t'
  let trimmed (cs : List Char) : List Char :=
    ((cs.dropWhile isGap).reverse.dropWhile isGap).reverse
  match (Text.decodeLenient ((content.take maxFirstLine).takeWhile (· != 10))).toList with
  | '#' :: '!' :: line =>
    let line := trimmed line
    let path := line.takeWhile fun c => !isGap c
    let rest := trimmed (line.drop path.length)
    if path.isEmpty then none
    else some (String.ofList path, if rest.isEmpty then none else some (String.ofList rest))
  | _ => none

/-- How often an interpreter may itself be a file with an interpreter. -/
def maxInterpreters : Nat := 5

/-- What runs when a path is executed, with at most so many interpreters. It is nothing for a file
without an interpreter, which is at most a script. -/
def Tree.execution? (t : Tree) (current : Location) :
    Nat → String → Except OsError (Option Execution)
  | levels, path =>
    match t.find current path with
    | .error e => .error e
    | .ok (.program name) => .ok (some { program := name, name := path })
    | .ok (.file number) =>
      let f := t.file number
      if !f.isExecutable then .error .permissionDenied
      else
        match interpreter? f.content, levels with
        | none, _ => .ok none
        | some _, 0 => .error .tooManyLinks
        | some (interpreter, argument?), levels + 1 =>
          match t.execution? current levels interpreter with
          | .error e => .error e
          | .ok x? =>
            .ok (x?.map fun x => { x with front := x.front ++ argument?.toList ++ [path] })
    | .ok .directory | .ok (.device _) | .ok (.link _) => .error .permissionDenied

/-- The paths under which a program is looked for: its name if that is a path, or else the name in
each directory of the list, which are separated by colons. -/
def searchPaths (directories name : String) : List String :=
  if name.toList.contains '/' then [name]
  else (Text.splitAtEach ':' directories.toList).map fun d => join (String.ofList d) name

/-- The first of the paths at which there is something to run, and what that is. A path at which
there is nothing is passed over, and one that may not be executed too, but the latter gives the
reason if there is no other. -/
def Tree.firstExecution (t : Tree) (current : Location) (e : OsError) :
    List String → Except OsError (String × Option Execution)
  | [] => .error e
  | path :: paths =>
    match t.execution? current maxInterpreters path with
    | .ok x? => .ok (path, x?)
    | .error .notFound | .error .notADirectory => t.firstExecution current e paths
    | .error .permissionDenied => t.firstExecution current .permissionDenied paths
    | .error e => .error e

/-- What runs when a name is called, and at which path that is. A name that is a path is not looked
for. -/
def Tree.called (t : Tree) (current : Location) (directories name : String) :
    Except OsError (String × Option Execution) :=
  if name.toList.contains '/' then
    (t.execution? current maxInterpreters name).map fun x? => (name, x?)
  else t.firstExecution current .notFound (searchPaths directories name)

example : searchPaths "/bin::/usr/bin" "ls" = ["/bin/ls", "ls", "/usr/bin/ls"] := by decide

end ZoneGuard.Files
