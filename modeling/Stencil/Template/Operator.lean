/-!
# Template — Operator

The operators of templates, written in braces, and the reserved elements they stand for.
-/

namespace Stencil.Template

/-- The operators that are closed again. -/
inductive Block where
  | but
  | many
  | scope
  | capture (name : String)
  | either
  deriving DecidableEq, Repr

/-- The reserved elements. -/
inductive Marker where
  | something
  | but
  | many
  | scope
  | capture
  | regex
  | either
  | or
  deriving DecidableEq, Repr

namespace Marker

/-- The name of a reserved element. -/
def name : Marker → String
  | something => "ep-something"
  | but => "ep-but"
  | many => "ep-many"
  | scope => "ep-scope"
  | capture => "ep-variable"
  | regex => "ep-regex"
  | either => "ep-either"
  | or => "ep-or"

/-- The reserved elements, each once. -/
def all : List Marker := [something, but, many, scope, capture, regex, either, or]

/-- The reserved element of a name. -/
def ofName? (n : String) : Option Marker := all.find? (·.name == n)

end Marker

namespace Block

/-- What stands between the braces of an operator. -/
def word : Block → List Char
  | but => ['.', '.', '.', 'b', 'u', 't']
  | many => ['m', 'a', 'n', 'y']
  | scope => ['s', 'c', 'o', 'p', 'e']
  | capture name => '$' :: name.toList
  | either => ['e', 'i', 't', 'h', 'e', 'r']

/-- An operator as it is written where it opens. -/
def opening (b : Block) : List Char := '\x7b' :: b.word ++ ['\x7d']

/-- An operator as it is written where it closes. -/
def closing (b : Block) : List Char := '\x7b' :: '/' :: b.word ++ ['\x7d']

/-- The reserved element that an operator stands for. -/
def marker : Block → Marker
  | but => .but
  | many => .many
  | scope => .scope
  | capture _ => .capture
  | either => .either

end Block

/-- The parts of a template: single characters and operators. A regular expression is the text
between its delimiters, as it is written. -/
inductive Token where
  | char (c : Char)
  | something
  | option
  | opening (b : Block)
  | closing (b : Block)
  | regex (body : List Char)
  deriving DecidableEq, Repr

/-- A token as it is written. -/
def Token.lexeme : Token → List Char
  | char c => [c]
  | something => ['\x7b', '.', '.', '.', '\x7d']
  | option => ['\x7b', 'o', 'r', '\x7d']
  | opening b => b.opening
  | closing b => b.closing
  | regex body => '\x7b' :: '/' :: body ++ ['/', '\x7d']

end Stencil.Template
