import Stencil.Document.Node

/-!
# Document — Cursor

Positions in a document: a node with its following siblings, or no node. A move goes to the child
or the sibling that comes next, with blank texts counted or passed over.
-/

namespace Stencil

/-- A node, first, and the siblings after it; empty where there is no node. -/
abbrev Cursor := List Node

namespace Cursor

/-- The first position of a row at which the node is not blank. -/
def skipBlank (c : Cursor) : Cursor := c.dropWhile (·.isBlank)

/-- The root of a document, with what follows it at the top level. -/
def root (d : Document) : Cursor := skipBlank d.top

/-- The first child of a node. -/
def rawChild : Cursor → Cursor
  | [] => []
  | n :: _ => n.children

/-- The next sibling of a node. -/
def rawNext (c : Cursor) : Cursor := c.tail

/-- The first child of a node that is not blank. -/
def child (c : Cursor) : Cursor := c.rawChild.skipBlank

/-- The next sibling of a node that is not blank. -/
def next (c : Cursor) : Cursor := c.rawNext.skipBlank

/-- The node and its following siblings that are not blank. -/
def siblings : Cursor → List Node
  | [] => []
  | n :: rest => n :: rest.filter (!·.isBlank)

end Cursor

namespace Node

/-- The nodes of a row of trees in document order, each with its level, which is `level` for the
trees themselves. -/
def walk (level : Nat) : List Node → List (Nat × Node)
  | [] => []
  | .element d n as cs :: rest =>
    (level, .element d n as cs) :: (walk (level + 1) cs ++ walk level rest)
  | .text d s :: rest => (level, .text d s) :: walk level rest

end Node

end Stencil
