import Stencil.Markup.Event
import Stencil.Template.Error
import Stencil.Template.Scan

/-!
# Template — Expansion

Templates as plain markup: operators become reserved elements, all else stays as it is. A template
is expanded if each closing operator closes the innermost open one, each `or` stands directly in
an `either`, capture names start with a small letter, and nothing is open at the end.
-/

namespace Stencil.Template

open Markup

/-! ### Markup of tokens -/

/-- The expression that a regular expression writes: a slash needs no backslash in it. -/
def expressionOf : List Char → List Char
  | [] => []
  | '\\' :: '/' :: rest => '/' :: expressionOf rest
  | '\\' :: c :: rest => '\\' :: c :: expressionOf rest
  | c :: rest => c :: expressionOf rest

/-- An attribute with a quoted value, after a space. -/
def attributeMarkup (key : String) (value : List Char) : List Char :=
  ' ' :: key.toList ++ '=' :: '\x22' :: escape value ++ ['\x22']

/-- The attributes of the element that an operator stands for. -/
def Block.attributeMarkup : Block → List Char
  | capture name => Template.attributeMarkup "name" name.toList
  | _ => []

/-- An element that closes itself. -/
def selfClosed (m : Marker) (attributes : List Char) : List Char :=
  '<' :: m.name.toList ++ attributes ++ ['/', '>']

/-- A token as markup. -/
def Token.markup : Token → List Char
  | char c => [c]
  | something => selfClosed .something []
  | option => selfClosed .or []
  | opening b => '<' :: b.marker.name.toList ++ b.attributeMarkup ++ ['>']
  | closing b => '<' :: '/' :: b.marker.name.toList ++ ['>']
  | regex body => selfClosed .regex (Template.attributeMarkup "value" (expressionOf body))

/-! ### Nesting -/

/-- The open operators, the innermost first, each with the byte at which it stands. -/
abbrev Nesting := List (Block × Nat)

/-- Whether a name starts with a small letter of ASCII. -/
def isCaptureName (name : String) : Bool := name.toList.head?.any Char.isLower

/-- The open operators after a token that stands at an offset. -/
def Nesting.step (offset : Nat) (nesting : Nesting) : Token → Except TemplateError Nesting
  | .char _ | .something | .regex _ => .ok nesting
  | .option =>
    match nesting with
    | (.either, _) :: _ => .ok nesting
    | _ => .error (.optionOutsideAlternative offset)
  | .opening b =>
    match b with
    | .capture name =>
      if isCaptureName name then .ok ((b, offset) :: nesting)
      else .error (.invalidCaptureName name offset)
    | _ => .ok ((b, offset) :: nesting)
  | .closing b =>
    match nesting with
    | [] => .error (.unexpectedClose (String.ofList b.closing) offset)
    | (innermost, _) :: outer =>
      if innermost = b then .ok outer
      else
        .error (.mismatchedClose (String.ofList innermost.opening) (String.ofList b.closing)
          offset)

/-- The open operators after a row of tokens, the first of which stands at an offset, and the
offset behind them. -/
def Nesting.run (offset : Nat) (nesting : Nesting) :
    List Token → Except TemplateError (Nesting × Nat)
  | [] => .ok (nesting, offset)
  | t :: rest => do
    run (offset + byteLength t.lexeme) (← nesting.step offset t) rest

/-- The report of a regular expression that starts at an offset. -/
def RegexFault.error (offset : Nat) : RegexFault → TemplateError
  | empty => .emptyRegex offset
  | unterminated => .unterminatedRegex offset

/-- Tokens as markup, if their operators are nested well. -/
def Tokens.expand (ts : Tokens) : Except TemplateError (List Char) := do
  let (nesting, offset) ← Nesting.run 0 [] ts.tokens
  match ts.fault, nesting with
  | some fault, _ => .error (fault.error offset)
  | none, (innermost, at_) :: _ =>
    .error (.unterminatedOperator (String.ofList innermost.opening) at_)
  | none, [] => .ok (ts.tokens.flatMap Token.markup)

/-- A template as markup. -/
def expand (template : String) : Except TemplateError String :=
  (Tokens.ofSource template.toList).expand.map String.ofList

end Stencil.Template
