import Stencil.Markup.ReferenceTable
import Stencil.Text.Cut
import Stencil.Text.Numeral

/-!
# Markup — Reference

Character references: `&name;`, `&#number;` and `&#xnumber;`. A text whose references can all be
resolved is resolved as a whole; in any other text each reference is resolved alone, and what
cannot be resolved stays as it is written.
-/

namespace Stencil.Markup

open Text

/-- The references that stand for the characters of markup itself. -/
def markupReferences : List (List Char × Char) :=
  [(['l', 't'], '<'), (['g', 't'], '>'), (['a', 'm', 'p'], '&'), (['a', 'p', 'o', 's'], '\x27'),
   (['q', 'u', 'o', 't'], '\x22')]

/-- A code point of three or five hexadecimal digits without the last of them, any other as it is:
named references go by an even number of digits. -/
def evenDigits (n : Nat) : Nat :=
  if n < 0x100 ∨ 0x1000 ≤ n ∧ n < 0x10000 then n else n / 16

/-- The named references with their characters. -/
def referenceTable : List (List Char × Char) :=
  (words referenceNames).filterMap fun word =>
    match word.splitOnP (· == '=') with
    | [name, code] => some (name, Char.ofNat (evenDigits (hexadecimal code)))
    | _ => none

/-- The character of a named reference. -/
def named? (name : List Char) : Option Char :=
  markupReferences.lookup name <|> referenceTable.lookup name

/-- The character of a number that is the code point of one, other than zero. -/
def scalar? (n : Nat) : Option Char :=
  if n ≠ 0 ∧ n.isValidChar then some (Char.ofNat n) else none

/-- The character of a numeric reference, hexadecimal after an `x`. -/
def numbered? : List Char → Option Char
  | 'x' :: digits => (numeral? 16 digits).bind scalar?
  | digits => (numeral? 10 digits).bind scalar?

/-- The character of the reference with this text between its ampersand and its semicolon. -/
def reference? : List Char → Option Char
  | '#' :: number => numbered? number
  | name => named? name

/-- Whether a character can stand between the ampersand and the semicolon of a reference. -/
def inReference (c : Char) : Bool := c != '&' && c != ';'

/-- A text with all its references resolved, if each ampersand starts one that can be. -/
def unescape? : List Char → Option (List Char)
  | [] => some []
  | c :: rest =>
    if c = '&' then
      match h : rest.dropWhile inReference with
      | ';' :: after =>
        have : after.length < rest.length := by
          have := length_dropWhile_le inReference rest
          simp only [h, List.length_cons] at this
          omega
        match reference? (rest.takeWhile inReference), unescape? after with
        | some r, some text => some (r :: text)
        | _, _ => none
      | _ => none
    else (unescape? rest).map (c :: ·)
termination_by s => s.length

/-- A text with each reference resolved alone, and an ampersand kept where that fails. -/
def salvage : List Char → List Char
  | [] => []
  | c :: rest =>
    if c = '&' then
      match h : rest.dropWhile (· != ';') with
      | ';' :: after =>
        have : after.length < rest.length := by
          have := length_dropWhile_le (· != ';') rest
          simp only [h, List.length_cons] at this
          omega
        match unescape? ('&' :: rest.takeWhile (· != ';') ++ [';']) with
        | some text => text ++ salvage after
        | none => '&' :: salvage rest
      | _ => '&' :: salvage rest
    else c :: salvage rest
termination_by s => s.length

/-- The text that a raw text stands for. -/
def decodeReferences (raw : List Char) : List Char := (unescape? raw).getD (salvage raw)

/-- A character as it is written where it must not be taken for markup. -/
def escapeChar (c : Char) : List Char :=
  if c = '<' then "&lt;".toList
  else if c = '>' then "&gt;".toList
  else if c = '&' then "&amp;".toList
  else if c = '\x27' then "&apos;".toList
  else if c = '\x22' then "&quot;".toList
  else [c]

/-- A text written so that it is not taken for markup, in text and in quoted values alike. -/
def escape (s : List Char) : List Char := s.flatMap escapeChar

end Stencil.Markup
