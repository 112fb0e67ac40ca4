import ZoneGuard.Numeric.Digit

/-!
# References in attribute values

A reference stands for one character: `&lt;` and four more by name, and any character by its code
point in decimal or hexadecimal. A value is read as a whole: if one ampersand in it begins no known
reference, every reference of the value stays as it is written.
-/

namespace ZoneGuard.Markup

def namedCharacters : List (List Char × Char) :=
  [("lt".toList, '<'), ("gt".toList, '>'), ("amp".toList, '&'), ("apos".toList, '\''),
   ("quot".toList, '"')]

/-- The character with the code point that the digits denote. There is no character with code
point zero, and there are at most `width` digits. -/
def codePoint? (base width : Nat) (digits : List Char) : Option Char :=
  if width < digits.length then none
  else
    match ofDigits? base digits with
    | none | some 0 => none
    | some (n + 1) => if (n + 1).isValidChar then some (Char.ofNat (n + 1)) else none

/-- The character that a reference stands for, given what is between its ampersand and its
semicolon. -/
def referencedChar? : List Char → Option Char
  | '#' :: 'x' :: digits => codePoint? 16 6 digits
  | '#' :: digits => codePoint? 10 7 digits
  | name => namedCharacters.lookup name

/-- The value with each reference replaced by its character, or `none` if an ampersand begins no
known reference. -/
def expand? (value : List Char) : Option (List Char) :=
  go none value
where
  /-- Reads on, inside the reference whose characters so far are given last first. -/
  go : Option (List Char) → List Char → Option (List Char)
    | none, [] => some []
    | some _, [] => none
    | none, c :: cs => if c = '&' then go (some []) cs else (go none cs).map (c :: ·)
    | some name, c :: cs =>
      if c = ';' then
        match referencedChar? name.reverse with
        | some d => (go none cs).map (d :: ·)
        | none => none
      else if c = '&' then none
      else go (some (c :: name)) cs

def valueText (value : List Char) : String :=
  String.ofList ((expand? value).getD value)

example : valueText "a &lt;&#65;&#x42;".toList = "a <AB" := by decide

example : valueText "&bogus;&lt;".toList = "&bogus;&lt;" := by decide

end ZoneGuard.Markup
