import Stencil.Document.Node

/-!
# Document — Normal form

Every document that is not blank gets one `html` element at its top, with a `body` among its
children. Both are kept where they are written; else an `html` is put around everything, and a
`body` around everything in it, except for a `head` that comes first and what stands before it.
-/

namespace Stencil

namespace Document

/-- The nodes of a row that are not blank. -/
def visible (nodes : List Node) : List Node := nodes.filter (!·.isBlank)

/-- The children of an `html` element with a `body` among them. -/
def withBody (children : List Node) : List Node :=
  if (visible children).any (·.isNamed "body") then children
  else
    match children.span (·.isBlank) with
    | (before, first :: rest) =>
      if first.isNamed "head" then
        before ++ [first, .element 1 "body" [] (rest.map Node.deepen)]
      else [.element 1 "body" [] (children.map Node.deepen)]
    | (_, []) => [.element 1 "body" [] (children.map Node.deepen)]

/-- An element with a `body` among its children; a text stays as it is. -/
def completed : Node → Node
  | .element d n as cs => .element d n as (withBody cs)
  | .text d s => .text d s

/-- The top level of a document in normal form. -/
def normalized (top : List Node) : List Node :=
  match visible top with
  | [] => top
  | [only] =>
    if only.isNamed "html" then top.map completed
    else [.element 0 "html" [] (withBody (top.map Node.deepen))]
  | _ => [.element 0 "html" [] (withBody (top.map Node.deepen))]

end Document

end Stencil
