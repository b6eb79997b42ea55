import Stencil.Markup.Attribute
import Stencil.Text.Blank
import Stencil.Text.Quoted

/-!
# Document — Node

The trees that documents are made of: elements with attributes and children, and texts. Every node
records how deep it is nested below the root.
-/

namespace Stencil

/-- An element or a text, with its depth. -/
inductive Node where
  | element (depth : Nat) (name : String) (attributes : List Markup.Attribute)
      (children : List Node)
  | text (depth : Nat) (content : String)
  deriving Repr

/-- A document: the nodes at its top level. -/
structure Document where
  top : List Node

namespace Node

/-- The recorded depth. -/
def depth : Node → Nat
  | element d _ _ _ => d
  | text d _ => d

/-- The name of an element. -/
def name? : Node → Option String
  | element _ n _ _ => some n
  | text _ _ => none

/-- The content of a text. -/
def text? : Node → Option String
  | element _ _ _ _ => none
  | text _ s => some s

/-- The children of an element; a text has none. -/
def children : Node → List Node
  | element _ _ _ cs => cs
  | text _ _ => []

/-- The value of the first attribute of an element with a key. -/
def attribute? : Node → String → Option String
  | element _ _ as _, key => as.lookup key
  | text _ _, _ => none

/-- Whether a node is an element with a name. -/
def isNamed (n : Node) (name : String) : Bool := n.name? == some name

/-- Whether a node is a text of white space only. -/
def isBlank : Node → Bool
  | element _ _ _ _ => false
  | text _ s => Text.isBlank s

/-- How an element is named in a report. -/
def describeName (name : String) : String := "<" ++ name ++ ">"

/-- How a text is shown in a report: the first characters of it without the white space around,
quoted. -/
def describeText (content : String) : String :=
  Text.quoted (String.ofList ((Text.trim content.toList).take 24))

/-- How a node is named in a report. -/
def describe : Node → String
  | element _ n _ _ => describeName n
  | text _ s => describeText s

/-- A node one level deeper, with all that is below it. -/
def deepen : Node → Node
  | element d n as cs => element (d + 1) n as (cs.map deepen)
  | text d s => text (d + 1) s

end Node

end Stencil
