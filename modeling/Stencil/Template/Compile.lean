import Stencil.Document.Read
import Stencil.Template.Expansion
import Stencil.Template.Pattern

/-!
# Template — Compilation

Patterns of documents whose reserved elements stand for operators. Siblings are compiled from the
last to the first, and a node is looked at before its children: of several errors, the first one in
this order is reported.
-/

namespace Stencil

open Template

/-- A reserved element without children, or an error. -/
def Template.leaf (m : Marker) (children : List Node) (kind : Except TemplateError Kind) :
    Except TemplateError (Kind × Pattern) :=
  if children.all (·.isBlank) then kind.map (·, .nil) else .error (.markerWithContent m)

/-- The value of an attribute that a reserved element must have. -/
def Template.required (m : Marker) (key : String) (attributes : List Markup.Attribute) :
    Except TemplateError String :=
  match attributes.lookup key with
  | some value => .ok value
  | none => .error (.missingAttribute m key)

/-- The regular expression that a text writes. -/
def Template.searchFor (expression : String) : Except TemplateError Kind :=
  match Regex.ofSource? expression with
  | some regex => .ok (.search regex)
  | none => .error (.invalidRegex expression)

namespace Pattern

mutual

/-- What a node asks for, and the chain of its children. -/
def ofNode : Node → Except TemplateError (Kind × Pattern)
  | .text _ content => .ok (.literal content, .nil)
  | .element _ name attributes children =>
    match Marker.ofName? name with
    | none => do return (.element name, ← ofNodes children)
    | some .something => leaf .something children (.ok .wildcard)
    | some .or => leaf .or children (.ok .option)
    | some .regex =>
      leaf .regex children (required .regex "value" attributes >>= searchFor)
    | some .capture => do
      let captured ← required .capture "name" attributes
      return (.capture captured, ← ofNodes children)
    | some .but => do return (.wildcardExcept, ← ofNodes children)
    | some .many => do return (.many, ← ofNodes children)
    | some .scope => do return (.scope, ← ofNodes children)
    | some .either => do return (.either, ← ofNodes children)

/-- The chain of a row of siblings. -/
def ofNodes : List Node → Except TemplateError Pattern
  | [] => .ok .nil
  | n :: rest => do
    let next ← ofNodes rest
    if n.isBlank then return next
    else
      let (kind, child) ← ofNode n
      return .node kind child next

end

/-- The pattern of a document. -/
def ofDocument (d : Document) : Except TemplateError Pattern := do
  match ← ofNodes d.top with
  | .nil => .error .emptyTemplate
  | p => .ok p

end Pattern

/-- The pattern of a template. -/
def Template.compile (template : String) : Except TemplateError Pattern := do
  let markup ← expand template
  match Document.read markup .strict with
  | .ok d => Pattern.ofDocument d
  | .error e => .error (.markup e)

end Stencil
