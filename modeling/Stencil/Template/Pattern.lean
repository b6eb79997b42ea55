import Stencil.Document.Node
import Stencil.Regex.Basic

/-!
# Template — Pattern

Compiled templates: chains of pattern nodes, each with the chain of its children and the rest of
its own chain.
-/

namespace Stencil

/-- What a pattern node asks for. -/
inductive Kind where
  /-- An element of this name. -/
  | element (tag : String)
  /-- A text with exactly this content. -/
  | literal (text : String)
  /-- A run of texts and line breaks in which this expression matches. -/
  | search (regex : Regex)
  /-- Any number of siblings. -/
  | wildcard
  /-- Any number of siblings, none of which matches the child. -/
  | wildcardExcept
  /-- The child, once or more. -/
  | many
  /-- The child, with its captures in a frame of their own. -/
  | scope
  /-- The child, with the text it matches bound to this name. -/
  | capture (name : String)
  /-- The first branch of the child that matches. -/
  | either
  /-- The end of a branch. -/
  | option
  deriving DecidableEq

namespace Kind

/-- Whether a node of a kind never looks at the rest of its chain. -/
def ignoresNext : Kind → Bool
  | literal _ | search _ | scope | capture _ => true
  | _ => false

/-- How a node is named in a report. -/
def describe : Kind → String
  | element tag => Node.describeName tag
  | literal text => Text.quoted text
  | search regex => "\x7b/" ++ regex.source ++ "/\x7d"
  | wildcard => "\x7b...\x7d"
  | wildcardExcept => "\x7b...but\x7d"
  | many => "\x7bmany\x7d"
  | scope => "\x7bscope\x7d"
  | capture name => "\x7b$" ++ name ++ "\x7d"
  | either => "\x7beither\x7d"
  | option => "\x7bor\x7d"

/-- The name under which a node captures. -/
def captureName? : Kind → Option String
  | capture name => some name
  | _ => none

end Kind

/-- Chains of pattern nodes: nothing more, or a node with the chain of its children and the rest of
the chain. -/
inductive Pattern where
  | nil
  | node (kind : Kind) (child next : Pattern)
  deriving DecidableEq

namespace Pattern

/-- The name of every node that captures, in the order of the template. -/
def captures : Pattern → List String
  | nil => []
  | node kind child next => kind.captureName?.toList ++ child.captures ++ next.captures

/-- The names that a pattern captures, in the order of the template, each once. -/
def captureNames (p : Pattern) : List String := p.captures.eraseDups

/-- The kind of the first node of a chain. -/
def kind? : Pattern → Option Kind
  | nil => none
  | node kind _ _ => some kind

/-- The nodes of a pattern in the order of the template, each with its level, which is `level` for
the chain itself. -/
def walk (level : Nat) : Pattern → List (Nat × Kind)
  | nil => []
  | node kind child next => (level, kind) :: (child.walk (level + 1) ++ next.walk level)

/-- The nodes that ignore the rest of their chain though it is not empty, each with the kind of the
first node that is ignored, in the order of the template. -/
def ignored : Pattern → List (Kind × Kind)
  | nil => []
  | node kind child next =>
    let here := match next.kind? with
      | some after => if kind.ignoresNext then [(kind, after)] else []
      | none => []
    here ++ child.ignored ++ next.ignored

/-- The report of a node that ignores another one. -/
def warning (pair : Kind × Kind) : String :=
  pair.1.describe ++ " is followed by " ++ pair.2.describe ++ ", which will never be matched"

/-- The reports of all nodes that ignore what comes after them. -/
def warnings (p : Pattern) : List String := p.ignored.map warning

end Pattern

end Stencil
