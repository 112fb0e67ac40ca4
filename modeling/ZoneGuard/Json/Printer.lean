import ZoneGuard.Json.Value
import ZoneGuard.Text.Quoted

/-!
# Writing JSON

The compact form has no layout at all. The indented form has one item or member a line, two spaces
for each level, and no layout inside empty arrays and objects. In strings only quotes, backslashes
and control characters are escaped.
-/

namespace ZoneGuard.Json

def escapeChar (c : Char) : List Char :=
  if c = '"' || c = '\\' then ['\\', c]
  else if c = '\x08' then ['\\', 'b']
  else if c = '\x0c' then ['\\', 'f']
  else if c = '\n' then ['\\', 'n']
  else if c = '\r' then ['\\', 'r']
  else if c = '\t' then ['\\', 't']
  else if c.toNat < 0x10 then ['\\', 'u', '0', '0', '0'] ++ Text.hexadecimal c.toNat
  else if c.toNat < 0x20 then ['\\', 'u', '0', '0'] ++ Text.hexadecimal c.toNat
  else [c]

def stringText (s : String) : String :=
  String.ofList ('"' :: s.toList.flatMap escapeChar ++ ['"'])

/-- The parts between two brackets, with a comma between each two. -/
def bracketed (opening closing : String) (parts : List String) : String :=
  opening ++ ",".intercalate parts ++ closing

mutual

def Value.compact : Value → String
  | .null => "null"
  | .bool b => if b then "true" else "false"
  | .number n => n.text
  | .string s => stringText s
  | .array items => bracketed "[" "]" (compactItems items)
  | .object members => bracketed "\x7b" "\x7d" (compactMembers members)

def compactItems : List Value → List String
  | [] => []
  | v :: vs => v.compact :: compactItems vs

def compactMembers : List (String × Value) → List String
  | [] => []
  | (name, v) :: rest => (stringText name ++ ":" ++ v.compact) :: compactMembers rest

end

/-- A line break followed by two spaces for each level. -/
def lineBreak (level : Nat) : String :=
  String.ofList ('\n' :: List.replicate (2 * level) ' ')

/-- The parts between two brackets, one a line, at the given level. -/
def indentedBlock (opening closing : String) (level : Nat) (parts : List String) : String :=
  if parts.isEmpty then opening ++ closing
  else
    opening ++ ",".intercalate (parts.map fun part => lineBreak (level + 1) ++ part)
      ++ lineBreak level ++ closing

mutual

/-- The value over several lines, its inner lines below the given level. -/
def Value.indented (level : Nat) : Value → String
  | .array items => indentedBlock "[" "]" level (indentedItems (level + 1) items)
  | .object members => indentedBlock "\x7b" "\x7d" level (indentedMembers (level + 1) members)
  | .null => "null"
  | .bool b => if b then "true" else "false"
  | .number n => n.text
  | .string s => stringText s

def indentedItems (level : Nat) : List Value → List String
  | [] => []
  | v :: vs => v.indented level :: indentedItems level vs

def indentedMembers (level : Nat) : List (String × Value) → List String
  | [] => []
  | (name, v) :: rest => (stringText name ++ ": " ++ v.indented level) :: indentedMembers level rest

end

def Value.pretty (v : Value) : String := v.indented 0

end ZoneGuard.Json
