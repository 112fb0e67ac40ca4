import ZoneGuard.CommandLine.Run

/-!
# The program

Puts the files below the current directory and those that the arguments name into a machine, runs
the program on it, and writes the files that are new or changed.
-/

namespace ZoneGuard.Main

open CommandLine (Request)

/-- How many levels of directories below the current one are taken into the machine. -/
def maxLevels : Nat := 4

/-- The variables of the environment that matter. -/
def variableNames : List String :=
  ["ARCHCHECK_CONFIG", "ARCHCHECK_ENGINE_TIMEOUT", "ARCHCHECK_PORT", "ARCHCHECK_WORK_DIR",
   "TMPDIR", "HOME", "PATH"]

def environment : IO Environment :=
  variableNames.filterMapM fun name => do
    return (← IO.getEnv name).map (name, ·)

/-- The names of the current directory and those around it. -/
def currentLocation : IO Files.Location := do
  return ((← IO.currentDir).components).filter fun part => !part.isEmpty

/-- Takes the file or directory at a path into the tree, with what is in it down to some levels. -/
def takeEntry : Nat → Files.Location → String → Files.Tree → IO Files.Tree
  | levels, current, path, tree => do
    let place := (← IO.currentDir) / path
    if ← place.isDir then
      let tree := (tree.makeDirectories current path).toOption.getD tree
      match levels with
      | 0 => return tree
      | levels + 1 =>
        let mut tree := tree
        for entry in ← place.readDir do
          tree ← takeEntry levels current (Files.join path entry.fileName) tree
        return tree
    else
      try
        let content ← IO.FS.readBinFile place
        let tree := (tree.makeDirectories current (Files.parent path)).toOption.getD tree
        return (tree.write current path content.toList).toOption.getD tree
      catch _ => return tree

/-- The machine with the files that matter to a request. -/
def machineFor (request? : Option Request) : IO Machine := do
  let environment ← environment
  let current ← currentLocation
  let mut tree := (Machine.bareTree.makeDirectories [] (Files.Location.path current)).toOption.getD
    Machine.bareTree
  let paths := (request?.map (·.paths environment)).getD []
  if !paths.isEmpty then
    tree ← takeEntry maxLevels current "." tree
  for path in paths do
    tree ← takeEntry 0 current (Files.parent path) tree
    tree ← takeEntry 0 current path tree
  return { tree, current, environment }

/-- Writes the files of a tree that another one does not have with the same content. -/
def writeChanges (before after : Files.Tree) : IO Unit := do
  for (location, content) in after.files do
    if !before.files.contains (location, content) then
      let here ← IO.currentDir
      IO.FS.createDirAll (here / Files.Location.path location.dropLast)
      IO.FS.writeBinFile (here / Files.Location.path location) content.toByteArray

def run (arguments : List String) : IO UInt32 := do
  let machine ← machineFor (Request.ofArguments? arguments)
  let (outcome, after) := CommandLine.run arguments machine
  writeChanges machine.tree after.tree
  (← IO.getStdout).putStr outcome.stdout
  (← IO.getStderr).putStr outcome.stderr
  return outcome.code.toUInt32

end ZoneGuard.Main

def main (arguments : List String) : IO UInt32 := ZoneGuard.Main.run arguments
