import ZoneGuard.Shell.Syntax

/-!
# Reading words

The words of a script: quotes, expansions of parameters, the output of commands, and arithmetic.
What stands in a word depends on what surrounds it. The commands inside a word are read by a
function that is passed in.
-/

namespace ZoneGuard.Shell

/-- A text that a redirection announced and that follows the line. -/
structure Pending where
  delimiter : Octets
  isLiteral : Bool
  withoutTabs : Bool

/-- The place in a script up to which it has been read. -/
structure Cursor where
  rest : Octets
  line : Nat := 1
  pending : List Pending := []
  documents : List Word := []

/-- Why a script cannot be read further. -/
inductive SyntaxFault where
  | unterminatedQuotes
  | unterminatedBackquotes
  | badLoopVariable
  | badFunctionName
  | missing (text : String)
  /-- A token in a wrong place, and the one that should stand there, if there is only one. -/
  | unexpected (found : String) (expected? : Option String)

def SyntaxFault.message : SyntaxFault → String
  | .unterminatedQuotes => "Unterminated quoted string"
  | .unterminatedBackquotes => "EOF in backquote substitution"
  | .badLoopVariable => "Bad for loop variable"
  | .badFunctionName => "Bad function name"
  | .missing text => "Missing '" ++ text ++ "'"
  | .unexpected found none => found ++ " unexpected"
  | .unexpected found (some expected) => found ++ " unexpected (expecting " ++ expected ++ ")"

/-- What has been read and where reading ended, or a fault with its line. -/
abbrev Read (α : Type) := Except (Nat × SyntaxFault) (α × Cursor)

namespace Cursor

def advance (cur : Cursor) : Cursor :=
  match cur.rest with
  | [] => cur
  | c :: cs => { cur with rest := cs, line := if c = '\n' then cur.line + 1 else cur.line }

def drop : Nat → Cursor → Cursor
  | 0, cur => cur
  | n + 1, cur => drop n cur.advance

def fail {α : Type} (cur : Cursor) (fault : SyntaxFault) : Read α := .error (cur.line, fault)

end Cursor

/-- Whether the character is the name of a parameter that the shell itself sets. -/
def isSpecialName (c : Char) : Bool := "@*#?-$!".toList.contains c

/-- Whether the character ends a word that is not in quotes. -/
def endsWord (c : Char) : Bool := " \t\n;&|<>()".toList.contains c

def parameterName (cs : Octets) : Octets :=
  match cs with
  | [] => []
  | c :: _ =>
    if isNameStart c then cs.takeWhile isNameChar
    else if c.isDigit then cs.takeWhile Char.isDigit
    else if isSpecialName c then [c]
    else []

inductive Surrounding where
  | nothing
  | quotes
  /-- The braces of a parameter, themselves in quotes or not. -/
  | braces (inQuotes : Bool)
  /-- An arithmetic expression, with the number of its open parentheses. -/
  | arithmetic (depth : Nat)
  /-- A text that follows its command. -/
  | document

/-- Whether characters have no meaning of their own there. -/
def Surrounding.isQuoted : Surrounding → Bool
  | .nothing | .braces false => false
  | .quotes | .braces true | .arithmetic _ | .document => true

/-- The characters before which a backslash counts. -/
def Surrounding.escapable : Surrounding → Octets
  | .document => "$\x60\\\n".toList
  | .braces true => "$\x60\\\"\n\x7d".toList
  | _ => "$\x60\\\"\n".toList

/-- The piece for a character that stands for itself. -/
def Surrounding.piece (s : Surrounding) (c : Char) : Piece :=
  if s.isQuoted then .quoted c else .plain c

/-- The text of a backquoted script up to its end, without the backslashes that only protect it. -/
def backquoted : Octets → Option (Octets × Octets)
  | [] => none
  | '\x60' :: cs => some ([], cs)
  | '\\' :: c :: cs =>
    (backquoted cs).map fun (text, rest) =>
      (if "$\x60\\".toList.contains c then c :: text else '\\' :: c :: text, rest)
  | c :: cs => (backquoted cs).map fun (text, rest) => (c :: text, rest)

/-- The name of a user behind a tilde, and what follows it. -/
def userName? : Word → Option (Octets × Word)
  | [] => some ([], [])
  | .plain c :: rest =>
    if c = '/' then some ([], .plain c :: rest)
    else (userName? rest).map fun (name, rest) => (c :: name, rest)
  | _ => none

/-- The word with a tilde at its beginning as what it stands for. -/
def withHome : Word → Word
  | .plain '~' :: rest =>
    match userName? rest with
    | some (name, rest) => .home name :: rest
    | none => .plain '~' :: rest
  | w => w

/-- The parts of a word between its colons that are not in quotes. -/
def colonParts : Word → List Word
  | [] => [[]]
  | .plain ':' :: rest => [] :: colonParts rest
  | piece :: rest =>
    match colonParts rest with
    | [] => [[piece]]
    | part :: parts => (piece :: part) :: parts

/-- The word with each tilde behind a colon or at its beginning as what it stands for. -/
def withHomes (w : Word) : Word := [Piece.plain ':'].intercalate ((colonParts w).map withHome)

/-- Pieces before others that are still to be read. -/
def prepend (first : List Piece) (rest : Read Word) : Read Word :=
  match rest with
  | .error e => .error e
  | .ok (pieces, cur) => .ok (first ++ pieces, cur)

section

variable (commands : Cursor → Read (List Command))

def parameterUse (cur : Cursor) : ParameterUse × Cursor :=
  match cur.rest with
  | '\x7d' :: _ | [] => (.plain, cur)
  | ':' :: '-' :: _ => (.default true, cur.drop 2)
  | ':' :: '=' :: _ => (.assign true, cur.drop 2)
  | ':' :: '?' :: _ => (.require true, cur.drop 2)
  | ':' :: '+' :: _ => (.alternative true, cur.drop 2)
  | '-' :: _ => (.default false, cur.drop 1)
  | '=' :: _ => (.assign false, cur.drop 1)
  | '?' :: _ => (.require false, cur.drop 1)
  | '+' :: _ => (.alternative false, cur.drop 1)
  | '%' :: '%' :: _ => (.without true true, cur.drop 2)
  | '%' :: _ => (.without true false, cur.drop 1)
  | '#' :: '#' :: _ => (.without false true, cur.drop 2)
  | '#' :: _ => (.without false false, cur.drop 1)
  | _ => (.invalid, cur)

/-- A parameter in braces, from behind the opening brace. `pieces` reads the word in it. -/
def bracedParameter (pieces : Surrounding → Cursor → Read Word) (inQuotes : Bool) (cur : Cursor) :
    Read Piece :=
  let lengthOf? := match cur.rest with
    | '#' :: cs =>
      let name := parameterName cs
      if name.isEmpty || (cs.drop name.length).head? != some '\x7d' then none else some name
    | _ => none
  match lengthOf? with
  | some name => .ok (.parameter inQuotes name .length [], cur.drop (name.length + 2))
  | none =>
    let name := parameterName cur.rest
    let (use, next) := parameterUse (cur.drop name.length)
    let use := if name.isEmpty then .invalid else use
    match pieces (.braces (inQuotes && !use.takesPattern)) next with
    | .error e => .error e
    | .ok (word, next) =>
      .ok (.parameter inQuotes name use (if inQuotes then word else withHome word), next)

/-- What a dollar sign stands for, from behind it. -/
def dollar (pieces : Surrounding → Cursor → Read Word) (inQuotes : Bool) (cur : Cursor) :
    Read Piece :=
  match cur.rest with
  | '(' :: '(' :: _ =>
    match pieces (.arithmetic 0) (cur.drop 2) with
    | .error e => .error e
    | .ok (expression, next) => .ok (.arithmetic inQuotes expression, next)
  | '(' :: _ =>
    match commands cur.advance with
    | .error e => .error e
    | .ok (script, next) =>
      match next.rest with
      | ')' :: _ => .ok (.output inQuotes script, next.advance)
      | _ => next.fail (.unexpected "end of file" (some "\")\""))
  | '\x7b' :: _ => bracedParameter pieces inQuotes cur.advance
  | cs =>
    let name := match cs with
      | c :: _ => if c.isDigit then [c] else parameterName cs
      | [] => []
    if name.isEmpty then .ok (if inQuotes then .quoted '$' else .plain '$', cur)
    else .ok (.parameter inQuotes name .plain [], cur.drop name.length)

/-- A script in backquotes, from behind the opening one. -/
def backquote (inQuotes : Bool) (cur : Cursor) : Read Piece :=
  match backquoted cur.rest with
  | none => cur.fail .unterminatedBackquotes
  | some (text, rest) =>
    match commands { rest := text, line := cur.line } with
    | .error e => .error e
    | .ok (script, _) =>
      .ok (.output inQuotes script, cur.drop (cur.rest.length - rest.length))

/-- The pieces of a word up to its end or to that of what surrounds it. Each step passes a
character. -/
def pieces : Nat → Surrounding → Cursor → Read Word
  | 0, _, cur => .ok ([], cur)
  | steps + 1, s, cur =>
    match cur.rest with
    | [] =>
      match s with
      | .nothing | .document => .ok ([], cur)
      | .quotes => cur.fail .unterminatedQuotes
      | .braces _ => cur.fail (.missing "\x7d")
      | .arithmetic _ => cur.fail (.missing "))")
    | '\\' :: c :: _ =>
      if s.isQuoted && !s.escapable.contains c then
        prepend [.quoted '\\'] (pieces steps s cur.advance)
      else if c = '\n' then pieces steps s (cur.drop 2)
      else prepend [.quoted c] (pieces steps s (cur.drop 2))
    | '\'' :: cs =>
      if s.isQuoted then prepend [.quoted '\''] (pieces steps s cur.advance)
      else
        let text := cs.takeWhile (· != '\'')
        if text.length = cs.length then cur.fail .unterminatedQuotes
        else
          prepend (.quotes :: text.map .quoted) (pieces steps s (cur.drop (text.length + 2)))
    | '"' :: _ =>
      match s with
      | .quotes => .ok ([], cur.advance)
      | .document | .arithmetic _ => prepend [.quoted '"'] (pieces steps s cur.advance)
      | .nothing | .braces _ =>
        match pieces steps .quotes cur.advance with
        | .error e => .error e
        | .ok (inner, next) => prepend (.quotes :: inner) (pieces steps s next)
    | '$' :: _ =>
      match dollar commands (pieces steps) s.isQuoted cur.advance with
      | .error e => .error e
      | .ok (piece, next) => prepend [piece] (pieces steps s next)
    | '\x60' :: _ =>
      match backquote commands s.isQuoted cur.advance with
      | .error e => .error e
      | .ok (piece, next) => prepend [piece] (pieces steps s next)
    | c :: cs =>
      match s, c with
      | .braces _, '\x7d' => .ok ([], cur.advance)
      | .arithmetic 0, ')' =>
        if cs.head? = some ')' then .ok ([], cur.drop 2) else cur.fail (.missing "))")
      | .arithmetic (depth + 1), ')' =>
        prepend [.quoted c] (pieces steps (.arithmetic depth) cur.advance)
      | .arithmetic depth, '(' =>
        prepend [.quoted c] (pieces steps (.arithmetic (depth + 1)) cur.advance)
      | .nothing, _ =>
        if endsWord c then .ok ([], cur) else prepend [.plain c] (pieces steps s cur.advance)
      | _, _ => prepend [s.piece c] (pieces steps s cur.advance)

/-- The word at the cursor; it is empty if there is none. -/
def word (cur : Cursor) : Read Word :=
  match pieces commands (cur.rest.length + 1) .nothing cur with
  | .error e => .error e
  | .ok (w, next) => .ok (withHome w, next)

end

/-- The text that a word is written with, quotes removed and nothing expanded. -/
def delimiterText : Word → Octets
  | [] => []
  | .plain c :: rest | .quoted c :: rest => c :: delimiterText rest
  | .home user :: rest => '~' :: user ++ delimiterText rest
  | _ :: rest => delimiterText rest

def hasQuotes (w : Word) : Bool :=
  w.any fun
    | .quoted _ | .quotes => true
    | _ => false

end ZoneGuard.Shell
