import Stencil.Document.Node
import Stencil.Markup.Event

/-!
# Document — Assembly

Trees put together from events. A tree under way is the row of siblings that grows, and the open
elements around it with the siblings before them. Two ways of reading differ in what they make of
end tags: the strict one wants each to close the innermost open element, the lenient one closes
whatever stands open inside the element that is named, and passes over an end tag that names none.
-/

namespace Stencil

open Markup

/-- How end tags are taken. -/
inductive Mode where
  | lenient
  | strict
  deriving DecidableEq, Repr

/-- The elements that have no content, however they are written. -/
def voidNames : List String :=
  ["area", "base", "br", "col", "embed", "hr", "img", "input", "link", "meta", "source", "track",
   "wbr"]

/-- Whether elements of a name have no content. -/
def isVoid (name : String) : Bool := voidNames.contains name

/-- An open element, with the siblings before it, the latest first. -/
structure OpenElement where
  name : String
  attributes : List Attribute
  earlier : List Node

/-- A tree under way: the siblings at the innermost level, the latest first, and the open elements,
the innermost first. -/
structure Assembly where
  siblings : List Node
  enclosing : List OpenElement

namespace Assembly

/-- Nothing read yet. -/
def empty : Assembly := ⟨[], []⟩

/-- The depth of the nodes at the innermost level. -/
def depth (a : Assembly) : Nat := a.enclosing.length

/-- An element without content is added. -/
def leaf (a : Assembly) (name : String) (attributes : List Attribute) : Assembly :=
  { a with siblings := .element a.depth name attributes [] :: a.siblings }

/-- An element is opened. -/
def enter (a : Assembly) (name : String) (attributes : List Attribute) : Assembly :=
  ⟨[], ⟨name, attributes, a.siblings⟩ :: a.enclosing⟩

/-- A text is added; one right after another text goes on with it, and an empty one adds
nothing. -/
def write (a : Assembly) (content : String) : Assembly :=
  if content.isEmpty then a
  else
    match a.siblings with
    | .text d s :: earlier => { a with siblings := .text d (s ++ content) :: earlier }
    | _ => { a with siblings := .text a.depth content :: a.siblings }

/-- The innermost open element is closed. -/
def leave (a : Assembly) : Assembly :=
  match a.enclosing with
  | [] => a
  | o :: outer =>
    ⟨.element outer.length o.name o.attributes a.siblings.reverse :: o.earlier, outer⟩

/-- As many elements are closed, from the innermost outward. -/
def leaveAll : Nat → Assembly → Assembly
  | 0, a => a
  | n + 1, a => leaveAll n a.leave

/-- The number of open elements inside the innermost one of a name. -/
def inside? (a : Assembly) (name : String) : Option Nat :=
  a.enclosing.findIdx? (·.name == name)

/-- An end tag is read at a position. -/
def close (mode : Mode) (position : Nat) (name : String) (a : Assembly) :
    Except MarkupError Assembly :=
  if isVoid name then .ok a
  else
    match mode, a.inside? name, a.enclosing with
    | .lenient, none, _ => .ok a
    | .strict, none, _ => .error (.unmatchedEndTag position name)
    | .strict, some (_ + 1), innermost :: _ =>
      .error (.mismatchedEndTag position innermost.name name)
    | _, some inside, _ => .ok (leaveAll (inside + 1) a)

/-- An event is read at a position. -/
def step (mode : Mode) (a : Assembly) : Nat × Event → Except MarkupError Assembly
  | (_, .start name attributes) =>
    .ok (if isVoid name then a.leaf name attributes else a.enter name attributes)
  | (_, .selfClosed name attributes) => .ok (a.leaf name attributes)
  | (position, .finish name) => a.close mode position name
  | (_, .text content) => .ok (a.write content)

/-- The finished tree, when all is read. What is still open is closed, or reported. -/
def finish (mode : Mode) (a : Assembly) : Except MarkupError (List Node) :=
  match mode, a.enclosing with
  | .strict, innermost :: _ => .error (.unclosedElement innermost.name)
  | _, enclosing => .ok (leaveAll enclosing.length a).siblings.reverse

/-- The tree of a reading. Of a fault and an end tag out of place, the one that comes first is
reported. -/
def ofReading (mode : Mode) (r : Reading) : Except MarkupError (List Node) := do
  let a ← r.events.foldlM (step mode) empty
  match r.fault with
  | some (position, fault) => .error (.syntaxFault position fault)
  | none => a.finish mode

/-- The tree of a row of events. -/
def ofEvents (mode : Mode) (events : List (Nat × Event)) : Except MarkupError (List Node) :=
  ofReading mode ⟨events, none⟩

end Assembly

end Stencil
