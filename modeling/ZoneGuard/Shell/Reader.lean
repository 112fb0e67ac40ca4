import ZoneGuard.Numeric.Digit
import ZoneGuard.Shell.Word

/-!
# Reading scripts

The grammar of commands over words. A script is read line by line, so that the commands before a
fault can still be run. Scripts are only read where the program runs an engine that is one.
-/

namespace ZoneGuard.Shell

/-! ### Blanks and line ends -/

/-- The cursor behind blanks, continued lines and a comment. -/
def skipBlanks (cur : Cursor) : Cursor :=
  go cur.rest.length cur
where
  /-- Each step passes a character. -/
  go : Nat → Cursor → Cursor
    | 0, cur => cur
    | steps + 1, cur =>
      match cur.rest with
      | ' ' :: _ | '\t' :: _ => go steps cur.advance
      | '\\' :: '\n' :: _ => go steps (cur.drop 2)
      | '#' :: cs => cur.drop (cs.takeWhile (· != '\n')).length.succ
      | _ => cur

/-- The lines of an announced text, up to the line that ends it, and what follows. -/
def documentLines (p : Pending) : Nat → Cursor → Octets × Cursor
  | 0, cur => ([], cur)
  | steps + 1, cur =>
    if cur.rest.isEmpty then ([], cur)
    else
      let line := cur.rest.takeWhile (· != '\n')
      let ending := (cur.rest.drop line.length).take 1
      let next := cur.drop (line.length + 1)
      let line := if p.withoutTabs then line.dropWhile (· == '\t') else line
      if line = p.delimiter then ([], next)
      else
        let (text, next) := documentLines p steps next
        (line ++ ending ++ text, next)

section

variable (commands : Cursor → Read (List Command))

/-- Reads the texts that the line announced, from behind its end. -/
def readDocuments : List Pending → Cursor → Except (Nat × SyntaxFault) Cursor
  | [], cur => .ok { cur with pending := [] }
  | p :: ps, cur =>
    let (text, next) := documentLines p (cur.rest.length + 1) cur
    if p.isLiteral then
      readDocuments ps { next with documents := next.documents ++ [text.map .quoted] }
    else
      match pieces commands (text.length + 1) .document { rest := text, line := cur.line } with
      | .error e => .error e
      | .ok (word, _) => readDocuments ps { next with documents := next.documents ++ [word] }

/-- The cursor behind a line feed and the texts that follow it. -/
def endLine (cur : Cursor) : Except (Nat × SyntaxFault) Cursor :=
  readDocuments commands cur.pending cur.advance

def skipLines : Nat → Cursor → Except (Nat × SyntaxFault) Cursor
  | 0, cur => .ok cur
  | steps + 1, cur =>
    let cur := skipBlanks cur
    match cur.rest with
    | '\n' :: _ =>
      match endLine commands cur with
      | .error e => .error e
      | .ok next => skipLines steps next
    | _ => .ok cur

/-! ### Tokens -/

/-- The words that have a meaning where a command may begin. -/
def reservedWords : List String :=
  ["if", "then", "else", "elif", "fi", "do", "done", "case", "esac", "while", "until", "for",
   "\x7b", "\x7d", "!", "in"]

/-- The utilities whose failure ends the shell and that keep the assignments before them. -/
def specialNames : List String :=
  [":", ".", "break", "continue", "eval", "exec", "exit", "export", "local", "readonly", "return",
   "set", "shift", "times", "trap", "unset"]

/-- The reserved words before which a list of commands ends. -/
def closingWords : List String := ["then", "else", "elif", "fi", "do", "done", "esac", "\x7d"]

def reserved? (cur : Cursor) : Option String :=
  let text := cur.rest.takeWhile fun c => !endsWord c && !"'\"\\$\x60".toList.contains c
  match cur.rest.drop text.length with
  | c :: _ =>
    if endsWord c then reservedWords.find? (·.toList == text) else none
  | [] => reservedWords.find? (·.toList == text)

/-- The operators, longer ones first. -/
def operatorTexts : List String :=
  [";;", "&&", "||", "<<", ">>", "<&", ">&", "<>", ">|", ";", "&", "|", "(", ")", "<", ">"]

def tokenText (cur : Cursor) : String :=
  match cur.rest with
  | [] => "end of file"
  | '\n' :: _ => "newline"
  | cs =>
    match operatorTexts.find? fun o => o.toList.isPrefixOf cs with
    | some o =>
      if "<>".toList.contains (o.toList.headD ' ') then "redirection" else "\"" ++ o ++ "\""
    | none =>
      match reserved? cur with
      | some w => "\"" ++ w ++ "\""
      | none => "word"

def unexpected {α : Type} (cur : Cursor) (expected? : Option String) : Read α :=
  cur.fail (.unexpected (tokenText cur) expected?)

def expectWord (text : String) (cur : Cursor) : Except (Nat × SyntaxFault) Cursor :=
  match skipLines commands (cur.rest.length + 1) cur with
  | .error e => .error e
  | .ok cur =>
    if reserved? cur = some text then .ok (cur.drop text.length)
    else
      match unexpected (α := Unit) cur (some ("\"" ++ text ++ "\"")) with
      | .error e => .error e
      | .ok (_, cur) => .ok cur

/-! ### Simple commands -/

/-- The kind of redirection at the cursor, and how many characters it is written with. -/
def redirectKind? : Octets → Option (RedirectKind × Nat)
  | '<' :: '&' :: _ | '>' :: '&' :: _ => some (.duplicate, 2)
  | '<' :: '>' :: _ => some (.readWrite, 2)
  | '>' :: '>' :: _ => some (.append, 2)
  | '>' :: '|' :: _ => some (.write true, 2)
  | '<' :: _ => some (.read, 1)
  | '>' :: _ => some (.write false, 1)
  | _ => none

def decimalValue (digits : Octets) : Nat :=
  digitsValue 10 digits

def redirect? (cur : Cursor) : Read (Option Redirect) :=
  let digits := cur.rest.takeWhile Char.isDigit
  let mark := cur.drop digits.length
  let descriptor (c : Char) : Nat :=
    if digits.isEmpty then (if c = '<' then 0 else 1) else decimalValue digits
  match mark.rest with
  | '<' :: '<' :: cs =>
    let withoutTabs := cs.head? == some '-'
    match word commands (skipBlanks (mark.drop (if withoutTabs then 3 else 2))) with
    | .error e => .error e
    | .ok ([], next) => unexpected next none
    | .ok (w, next) =>
      let index := next.documents.length + next.pending.length
      let p : Pending := ⟨delimiterText w, hasQuotes w, withoutTabs⟩
      .ok (some (.mk (descriptor '<') (.document index) []),
        { next with pending := next.pending ++ [p] })
  | cs =>
    match redirectKind? cs with
    | none => .ok (none, cur)
    | some (kind, width) =>
      match word commands (skipBlanks (mark.drop width)) with
      | .error e => .error e
      | .ok ([], next) => unexpected next none
      | .ok (w, next) => .ok (some (.mk (descriptor (cs.headD '>')) kind w), next)

def redirects : Nat → Cursor → Read (List Redirect)
  | 0, cur => .ok ([], cur)
  | steps + 1, cur =>
    match redirect? commands (skipBlanks cur) with
    | .error e => .error e
    | .ok (none, _) => .ok ([], cur)
    | .ok (some r, next) =>
      match redirects steps next with
      | .error e => .error e
      | .ok (rs, next) => .ok (r :: rs, next)

def assignment? (w : Word) : Option (Octets × Word) :=
  go [] w
where
  /-- The characters of the name come in reverse. -/
  go (name : Octets) : Word → Option (Octets × Word)
    | .plain '=' :: value => if name.isEmpty then none else some (name.reverse, withHomes value)
    | .plain c :: rest =>
      if (if name.isEmpty then isNameStart c else isNameChar c) then go (c :: name) rest else none
    | _ => none

structure SimpleParts where
  assignments : List (Octets × Word) := []
  words : List Word := []
  redirects : List Redirect := []

/-- The parts of a simple command. Each step passes one of them. -/
def simpleParts : Nat → SimpleParts → Cursor → Read SimpleParts
  | 0, parts, cur => .ok (parts, cur)
  | steps + 1, parts, cur =>
    let cur := skipBlanks cur
    match redirect? commands cur with
    | .error e => .error e
    | .ok (some r, next) =>
      simpleParts steps { parts with redirects := parts.redirects ++ [r] } next
    | .ok (none, _) =>
      match word commands cur with
      | .error e => .error e
      | .ok ([], _) => .ok (parts, cur)
      | .ok (w, next) =>
        match parts.words, assignment? w with
        | [], some a =>
          simpleParts steps { parts with assignments := parts.assignments ++ [a] } next
        | _, _ => simpleParts steps { parts with words := parts.words ++ [w] } next

def simpleCommand (cur : Cursor) : Read Command :=
  match simpleParts commands (cur.rest.length + 1) {} cur with
  | .error e => .error e
  | .ok (parts, next) =>
    if parts.words.isEmpty && parts.assignments.isEmpty && parts.redirects.isEmpty then
      unexpected next none
    else .ok (.simple cur.line parts.assignments parts.words parts.redirects, next)

/-! ### Compound commands -/

/-- What a list of commands between two reserved words holds, and the cursor behind the second. -/
def listBefore (closing : String) (cur : Cursor) : Read (List Command) :=
  match commands cur with
  | .error e => .error e
  | .ok (body, next) =>
    match expectWord commands closing next with
    | .error e => .error e
    | .ok next => .ok (body, next)

/-- The rest of a conditional, from behind `if` or `elif`. -/
def conditional : Nat → Cursor → Read Command
  | 0, cur => unexpected cur none
  | steps + 1, cur =>
    match listBefore commands "then" cur with
    | .error e => .error e
    | .ok (condition, next) =>
      match commands next with
      | .error e => .error e
      | .ok (body, next) =>
        match reserved? next with
        | some "elif" =>
          match conditional steps (next.drop 4) with
          | .error e => .error e
          | .ok (inner, next) => .ok (.branch condition body [inner], next)
        | some "else" =>
          match listBefore commands "fi" (next.drop 4) with
          | .error e => .error e
          | .ok (otherwise, next) => .ok (.branch condition body otherwise, next)
        | _ =>
          match expectWord commands "fi" next with
          | .error e => .error e
          | .ok next => .ok (.branch condition body [], next)

def loopBody (cur : Cursor) : Read (List Command) :=
  match expectWord commands "do" cur with
  | .error e => .error e
  | .ok next => listBefore commands "done" next

def words : Nat → Cursor → Read (List Word)
  | 0, cur => .ok ([], cur)
  | steps + 1, cur =>
    match word commands (skipBlanks cur) with
    | .error e => .error e
    | .ok ([], next) => .ok ([], next)
    | .ok (w, next) =>
      match words steps next with
      | .error e => .error e
      | .ok (ws, next) => .ok (w :: ws, next)

/-- The rest of a loop over words, from behind `for`. -/
def eachLoop (cur : Cursor) : Read Command :=
  let cur := skipBlanks cur
  let name := cur.rest.takeWhile isNameChar
  if name.isEmpty then cur.fail .badLoopVariable
  else
    let next := skipBlanks (cur.drop name.length)
    let next := if next.rest.head? = some ';' then next.advance else next
    match skipLines commands (next.rest.length + 1) next with
    | .error e => .error e
    | .ok next =>
      let words? : Read (Option (List Word)) :=
        if reserved? next = some "in" then
          match words commands next.rest.length (next.drop 2) with
          | .error e => .error e
          | .ok (ws, next) =>
            match next.rest with
            | ';' :: _ => .ok (some ws, next.advance)
            | '\n' :: _ => .ok (some ws, next)
            | _ => unexpected next none
        else .ok (none, next)
      match words? with
      | .error e => .error e
      | .ok (ws?, next) =>
        match loopBody commands next with
        | .error e => .error e
        | .ok (body, next) => .ok (.each name ws? body, next)

/-- The patterns of one case, from behind an opening parenthesis to behind the closing one. -/
def casePatterns : Nat → Cursor → Read (List Word)
  | 0, cur => unexpected cur none
  | steps + 1, cur =>
    match word commands (skipBlanks cur) with
    | .error e => .error e
    | .ok (w, next) =>
      let next := skipBlanks next
      match next.rest with
      | '|' :: _ =>
        match casePatterns steps next.advance with
        | .error e => .error e
        | .ok (ws, next) => .ok (w :: ws, next)
      | ')' :: _ => .ok ([w], next.advance)
      | _ => unexpected next (some "\")\"")

def caseList : Nat → Cursor → Read (List (List Word × List Command))
  | 0, cur => unexpected cur none
  | steps + 1, cur =>
    match skipLines commands (cur.rest.length + 1) cur with
    | .error e => .error e
    | .ok cur =>
      if reserved? cur = some "esac" then .ok ([], cur.drop 4)
      else
        let start := if cur.rest.head? = some '(' then cur.advance else cur
        match casePatterns commands (start.rest.length + 1) start with
        | .error e => .error e
        | .ok (patterns, next) =>
          match commands next with
          | .error e => .error e
          | .ok (body, next) =>
            if next.rest.take 2 ≠ [';', ';'] && reserved? next != some "esac" then
              unexpected next (some "\";;\"")
            else
              match caseList steps (if next.rest.head? = some ';' then next.drop 2 else next) with
              | .error e => .error e
              | .ok (cases, next) => .ok ((patterns, body) :: cases, next)

def selection (cur : Cursor) : Read Command :=
  match word commands (skipBlanks cur) with
  | .error e => .error e
  | .ok (subject, next) =>
    match expectWord commands "in" next with
    | .error e => .error e
    | .ok next =>
      match caseList commands (next.rest.length + 1) next with
      | .error e => .error e
      | .ok (cases, next) => .ok (.select subject cases, next)

def compound? (cur : Cursor) : Option (Read Command) :=
  let mapRead (f : List Command → Command) : Read (List Command) → Read Command
    | .error e => .error e
    | .ok (body, next) => .ok (f body, next)
  match reserved? cur with
  | some "if" => some (conditional commands (cur.rest.length + 1) (cur.drop 2))
  | some "while" | some "until" =>
    some
      (match commands (cur.drop 5) with
      | .error e => .error e
      | .ok (condition, next) =>
        mapRead (.loop (reserved? cur == some "while") condition) (loopBody commands next))
  | some "for" => some (eachLoop commands (cur.drop 3))
  | some "case" => some (selection commands (cur.drop 4))
  | some "\x7b" => some (mapRead .group (listBefore commands "\x7d" cur.advance))
  | _ =>
    if cur.rest.head? = some '(' then
      some
        (match commands cur.advance with
        | .error e => .error e
        | .ok (body, next) =>
          if next.rest.head? = some ')' then .ok (.subshell body, next.advance)
          else unexpected next (some "\")\""))
    else none

def withRedirects (line : Nat) (compound : Read Command) : Read Command :=
  match compound with
  | .error e => .error e
  | .ok (body, next) =>
    match redirects commands (next.rest.length + 1) next with
    | .error e => .error e
    | .ok ([], next) => .ok (body, next)
    | .ok (rs, next) => .ok (.redirected line body rs, next)

/-- The cursor behind the parentheses of a definition, the first of which has to be closed at
once. -/
def definitionMark? (cur : Cursor) : Option (Except (Nat × SyntaxFault) Cursor) :=
  let opened := skipBlanks cur
  if opened.rest.head? = some '(' then
    let closed := skipBlanks opened.advance
    if closed.rest.head? = some ')' then some (.ok closed.advance)
    else some ((unexpected (α := Unit) closed (some "\")\"")).map (·.2))
  else none

def command (cur : Cursor) : Read Command :=
  let cur := skipBlanks cur
  match compound? commands cur with
  | some compound => withRedirects commands cur.line compound
  | none =>
    if ((reserved? cur).filter (· != "in")).isSome then unexpected cur none
    else
      let name := cur.rest.takeWhile isNameChar
      let mark? := if name.isEmpty then none else definitionMark? (cur.drop name.length)
      match mark? with
      | some (.error e) => .error e
      | some (.ok next) =>
        if !name.head?.any isNameStart || specialNames.contains (String.ofList name) then
          next.fail .badFunctionName
        else
          match skipLines commands (next.rest.length + 1) next with
          | .error e => .error e
          | .ok next =>
            let body := match compound? commands next with
              | none => simpleCommand commands next
              | some compound => withRedirects commands next.line compound
            match body with
            | .error e => .error e
            | .ok (body, next) => .ok (.define name body, next)
      | none => simpleCommand commands cur

/-! ### Lists of commands -/

def pipeStages : Nat → Cursor → Read (List Command)
  | 0, cur => .ok ([], cur)
  | steps + 1, cur =>
    let cur := skipBlanks cur
    match cur.rest with
    | '|' :: rest =>
      if rest.head? = some '|' then .ok ([], cur)
      else
        match skipLines commands (cur.rest.length + 1) cur.advance with
        | .error e => .error e
        | .ok next =>
          match command commands next with
          | .error e => .error e
          | .ok (stage, next) =>
            match pipeStages steps next with
            | .error e => .error e
            | .ok (stages, next) => .ok (stage :: stages, next)
    | _ => .ok ([], cur)

def pipeline (cur : Cursor) : Read Command :=
  let cur := skipBlanks cur
  let negated := reserved? cur == some "!"
  match command commands (if negated then cur.advance else cur) with
  | .error e => .error e
  | .ok (first, next) =>
    match pipeStages commands (next.rest.length + 1) next with
    | .error e => .error e
    | .ok (stages, next) =>
      .ok (if stages.isEmpty && !negated then first else .pipeline negated (first :: stages), next)

/-- The pipelines that hang on the success or failure of what stands before. -/
def jointPipelines : Nat → Cursor → Read (List (Joint × Command))
  | 0, cur => .ok ([], cur)
  | steps + 1, cur =>
    let cur := skipBlanks cur
    let joint? : Option Joint := match cur.rest with
      | '&' :: '&' :: _ => some .onSuccess
      | '|' :: '|' :: _ => some .onFailure
      | _ => none
    match joint? with
    | none => .ok ([], cur)
    | some joint =>
      match skipLines commands (cur.rest.length + 1) (cur.drop 2) with
      | .error e => .error e
      | .ok next =>
        match pipeline commands next with
        | .error e => .error e
        | .ok (p, next) =>
          match jointPipelines steps next with
          | .error e => .error e
          | .ok (rest, next) => .ok ((joint, p) :: rest, next)

/-- Pipelines joined by `&&` and `||`, perhaps to run in the background, and whether there is a
separator behind them. -/
def jointList (cur : Cursor) : Read (Command × Bool) :=
  match pipeline commands cur with
  | .error e => .error e
  | .ok (first, next) =>
    match jointPipelines commands (next.rest.length + 1) next with
    | .error e => .error e
    | .ok (rest, next) =>
      let list := if rest.isEmpty then first else .sequence first rest
      match next.rest with
      | '&' :: _ => .ok ((.background list, true), next.advance)
      | ';' :: rest =>
        if rest.head? = some ';' then .ok ((list, false), next)
        else .ok ((list, true), next.advance)
      | rest => .ok ((list, rest.head? == some '\n'), next)

def endsList (cur : Cursor) : Bool :=
  cur.rest.isEmpty || cur.rest.head? == some ')' || cur.rest.take 2 == [';', ';']
    || ((reserved? cur).filter closingWords.contains).isSome

def listItems : Nat → Cursor → Read (List Command)
  | 0, cur => unexpected cur none
  | steps + 1, cur =>
    match skipLines commands (cur.rest.length + 1) cur with
    | .error e => .error e
    | .ok cur =>
      if endsList cur then .ok ([], cur)
      else
        match jointList commands cur with
        | .error e => .error e
        | .ok ((first, false), next) => .ok ([first], next)
        | .ok ((first, true), next) =>
          match listItems steps next with
          | .error e => .error e
          | .ok (rest, next) => .ok (first :: rest, next)

/-- The commands of one line, up to behind its end. -/
def lineItems : Nat → Cursor → Read (List Command)
  | 0, cur => unexpected cur none
  | steps + 1, cur =>
    let cur := skipBlanks cur
    match cur.rest with
    | [] => .ok ([], cur)
    | '\n' :: _ =>
      match endLine commands cur with
      | .error e => .error e
      | .ok next => .ok ([], next)
    | _ =>
      match jointList commands cur with
      | .error e => .error e
      | .ok ((first, isSeparated), next) =>
        if !isSeparated && !next.rest.isEmpty then unexpected next none
        else
          match lineItems steps next with
          | .error e => .error e
          | .ok (rest, next) => .ok (first :: rest, next)

end

def commandList : Nat → Cursor → Read (List Command)
  | 0, cur => unexpected cur none
  | depth + 1, cur => listItems (commandList depth) (cur.rest.length + 1) cur

/-- The lines of a script up to the first fault. Each step passes a line. -/
def scriptLines (depth : Nat) : Nat → List Command → Cursor → Script
  | 0, done, cur => { commands := done, documents := cur.documents }
  | steps + 1, done, cur =>
    if cur.rest.isEmpty then { commands := done, documents := cur.documents }
    else
      match lineItems (commandList depth) (cur.rest.length + 1) cur with
      | .error (line, fault) =>
        { commands := done, documents := cur.documents, fault? := some (line, fault.message) }
      | .ok (items, next) => scriptLines depth steps (done ++ items) next

/-- The script that a text holds, its own texts behind the known ones. -/
def Script.ofText (known : List Word) (text : Octets) : Script :=
  scriptLines text.length (text.length + 1) [] { rest := text, documents := known }

/-- The word that a text stands for in which only expansions have a meaning. -/
def wordOfText (text : Octets) : Word :=
  match pieces (commandList text.length) (text.length + 1) .document { rest := text } with
  | .ok (word, _) => word
  | .error _ => text.map .quoted

end ZoneGuard.Shell
