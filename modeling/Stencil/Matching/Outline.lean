import Stencil.Document.Node

/-!
# Matching — Outline

What matching sees of a document: its nodes without blank texts and without attributes, each with
its place.
-/

namespace Stencil

/-- Where a node stands: its index among its siblings that are not blank, after those of the nodes
around it from the root inward; and its depth. -/
structure Place where
  path : List Nat
  depth : Nat
  deriving DecidableEq, Repr

/-- A node of an outline. -/
inductive Site where
  | element (place : Place) (name : String) (children : List Site)
  | text (place : Place) (content : String)
  deriving Repr

namespace Site

/-- Where a node stands. -/
def place : Site → Place
  | element p _ _ => p
  | text p _ => p

/-- The recorded depth. -/
def depth (s : Site) : Nat := s.place.depth

/-- The name of an element. -/
def name? : Site → Option String
  | element _ n _ => some n
  | text _ _ => none

/-- How a node is named in a report. -/
def describe : Site → String
  | element _ n _ => Node.describeName n
  | text _ s => Node.describeText s

mutual

/-- The number of nodes of a tree. -/
def size : Site → Nat
  | element _ _ cs => sizes cs + 1
  | text _ _ => 1

/-- The number of nodes of a row of trees. -/
def sizes : List Site → Nat
  | [] => 0
  | s :: rest => s.size + sizes rest

end

end Site

mutual

/-- The outline of a node that stands at a path. -/
def Node.site (path : List Nat) : Node → Site
  | .element d n _ cs => .element ⟨path, d⟩ n (Node.sites path 0 cs)
  | .text d s => .text ⟨path, d⟩ s

/-- The outlines of a row of siblings, the first of which has an index among the children of the
node at a path. -/
def Node.sites (parent : List Nat) (index : Nat) : List Node → List Site
  | [] => []
  | n :: rest =>
    if n.isBlank then Node.sites parent index rest
    else n.site (parent ++ [index]) :: Node.sites parent (index + 1) rest

end

/-- The outline of a document. -/
def Document.outline (d : Document) : List Site := Node.sites [] 0 d.top

end Stencil
