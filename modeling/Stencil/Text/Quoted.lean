import Stencil.Text.CharClass

/-!
# Text — Quoted text

A text between double quotes on one line: quotes, backslashes and the common controls are escaped
with a backslash, and what does not show by itself stands as its code point in braces.
-/

namespace Stencil.Text

/-- A character by its code point, in lower-case hexadecimal without leading zeros. -/
def codeEscape (c : Char) : List Char :=
  ['\\', 'u', '\x7b'] ++ Nat.toDigits 16 c.toNat ++ ['\x7d']

/-- A character as it stands in a quoted text. -/
def quotedChar (c : Char) : List Char :=
  if c == '\x00' then ['\\', '0']
  else if c == '\t' then ['\\', 't']
  else if c == '\r' then ['\\', 'r']
  else if c == '\n' then ['\\', 'n']
  else if c == '\\' || c == '\x22' then ['\\', c]
  else if isExtender c || !isPrintable c then codeEscape c
  else [c]

/-- A text in double quotes. -/
def quoted (s : String) : String :=
  String.ofList ('\x22' :: s.toList.flatMap quotedChar ++ ['\x22'])

end Stencil.Text
