import ZoneGuard.Text.Printable

/-!
# Quoted text

A text between double quotes, with a backslash before quotes and backslashes, the short escapes for
tab, line feed, carriage return and NUL, and `\u` with the code point between braces for every other
character that has no glyph of its own.
-/

namespace ZoneGuard.Text

/-- The number in base 16, in lower case and without leading zeros. -/
def hexadecimal (n : Nat) : List Char :=
  Nat.toDigits 16 n

def quoteChar (c : Char) : List Char :=
  if c = '"' || c = '\\' then ['\\', c]
  else if c = '\t' then ['\\', 't']
  else if c = '\n' then ['\\', 'n']
  else if c = '\r' then ['\\', 'r']
  else if c = '\x00' then ['\\', '0']
  else if isPrintable c then [c]
  else ['\\', 'u', '\x7b'] ++ hexadecimal c.toNat ++ ['\x7d']

def quote (s : String) : String :=
  String.ofList ('"' :: s.toList.flatMap quoteChar ++ ['"'])

example : quote "a\"\x07\n\u00a0é" = "\"a\\\"\\u\x7b7\x7d\\n\\u\x7ba0\x7dé\"" := by decide +kernel

end ZoneGuard.Text
