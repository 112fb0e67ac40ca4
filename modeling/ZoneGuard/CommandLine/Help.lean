import ZoneGuard.CommandLine.Arguments
import ZoneGuard.Text.Lines

/-!
# Help

How the program and its commands are used, in words: what they are for, the usage in one line, and
the commands, operands and options in two columns.
-/

namespace ZoneGuard.CommandLine

def programPurpose : String := "Security-policy checks for network architecture graphs"

def columns (rows : List (String × String)) : List String :=
  let width := rows.foldl (fun width (label, _) => max width label.length) 0
  rows.map fun (label, meaning) =>
    "  " ++ label ++ String.ofList (List.replicate (width + 2 - label.length) ' ') ++ meaning

def Switch.label (o : Switch) : String :=
  let letter := match o.letter? with
    | some c => String.ofList ['-', c, ',', ' ']
    | none => "    "
  let value := if o.kind.takesValue then " <" ++ o.name.map Char.toUpper ++ ">" else ""
  letter ++ "--" ++ o.name ++ value

/-- A heading and the rows below it, with an empty line in front, unless there are no rows. -/
def headed (heading : String) (rows : List (String × String)) : List String :=
  if rows.isEmpty then [] else "" :: heading :: columns rows

def optionRows (options : List Switch) : List (String × String) :=
  options.map fun o => (o.label, o.purpose)

def programHelp : String :=
  Text.unlines <|
    [programPurpose, "", "Usage: archcheck [OPTIONS] <COMMAND>"]
      ++ headed "Commands:" (subcommands.map fun c => (c.name, c.purpose))
      ++ headed "Options:" (optionRows leadingOptions)

def Subcommand.usage (c : Subcommand) : String :=
  " ".intercalate
    (["Usage: archcheck", c.name] ++ (if c.options.isEmpty then [] else ["[OPTIONS]"])
      ++ c.operand?.toList.map (·.form))

def Subcommand.help (c : Subcommand) : String :=
  Text.unlines <|
    [c.purpose, "", c.usage]
      ++ headed "Arguments:" (c.operand?.toList.map fun o => (o.form, o.purpose))
      ++ headed "Options:" (optionRows c.options)

def helpText (topic? : Option Subcommand) : String :=
  (topic?.map Subcommand.help).getD programHelp

example : fastCommand.usage = "Usage: archcheck fast [OPTIONS] <GRAPH>" := by decide +kernel

end ZoneGuard.CommandLine
