import Stencil.Document.Assembly

/-!
# Document — Arena

Documents as they lie in memory. Every node has a record in one table, in the order in which the
nodes are met, and records are linked to a first child and to a next sibling by their indices. While
a source is read, the open elements and the last node at each level are kept beside the table; then
the table is brought into normal form by new records and new links.

An index that a table does not have, and links that do not come to an end within as many steps as
there are records, are faults here, beside the errors of the markup. There are no such faults, and
the links spell the documents that are put together as trees.
-/

namespace Stencil

open Markup

/-- What a node is, without its place in a tree. -/
inductive Content where
  | element (name : String) (attributes : List Attribute)
  | text (content : String)
  deriving DecidableEq, Repr

namespace Content

/-- The name of an element; a text has the empty one. -/
def name : Content → String
  | element n _ => n
  | text _ => ""

/-- Whether it is a text of white space only. -/
def isBlank : Content → Bool
  | element _ _ => false
  | text s => Text.isBlank s

end Content

/-- A node with its links and its depth. -/
structure Record where
  content : Content
  firstChild : Option Nat
  nextSibling : Option Nat
  depth : Nat
  deriving DecidableEq, Repr

/-- A record one level deeper. -/
def Record.deepen (r : Record) : Record := { r with depth := r.depth + 1 }

/-- Why a table of records is not built. -/
inductive ArenaFault where
  | outOfBounds
  | endless
  | markup (e : MarkupError)
  deriving DecidableEq, Repr

section Table

variable {α : Type}

/-- The entry of a table at an index. -/
def look (table : List α) (i : Nat) : Except ArenaFault α :=
  match table[i]? with
  | some x => .ok x
  | none => .error .outOfBounds

/-- A table with the entry at an index changed. -/
def change (table : List α) (i : Nat) (f : α → α) : Except ArenaFault (List α) :=
  if i < table.length then .ok (table.modify i f) else .error .outOfBounds

end Table

/-- A table of records, with the index of the first node at the top level. -/
structure Arena where
  records : List Record
  first : Option Nat
  deriving DecidableEq, Repr

namespace Arena

/-- A new record is linked to: by the node before it, or else by the element around it, or else as
the first one at the top level. -/
def attach (a : Arena) (id : Nat) : Option Nat → Option Nat → Except ArenaFault Arena
  | some previous, _ => do
    let records ← change a.records previous fun r => { r with nextSibling := some id }
    .ok { a with records }
  | none, some parent => do
    let records ← change a.records parent fun r => { r with firstChild := some id }
    .ok { a with records }
  | none, none => .ok { a with first := some id }

end Arena

/-! ### Building -/

/-- An arena under way: the open elements, the innermost last, and the last node at each level, the
top level first. -/
structure Builder extends Arena where
  opened : List Nat
  last : List (Option Nat)
  deriving DecidableEq, Repr

namespace Builder

/-- Nothing read yet. -/
def empty : Builder := ⟨⟨[], none⟩, [], [none]⟩

/-- A node is added at the innermost level. -/
def append (b : Builder) (content : Content) : Except ArenaFault Builder := do
  let id := b.records.length
  let level := b.opened.length
  let previous ← look b.last level
  let arena ← Arena.attach ⟨b.records ++ [⟨content, none, none, level⟩], b.first⟩ id previous
    b.opened.getLast?
  let last ← change b.last level fun _ => some id
  .ok ⟨arena, b.opened, last⟩

/-- An element is opened. -/
def enter (b : Builder) (name : String) (attributes : List Attribute) :
    Except ArenaFault Builder := do
  let added ← b.append (.element name attributes)
  .ok { added with opened := added.opened ++ [b.records.length], last := added.last ++ [none] }

/-- A text is added; one right after another text goes on with it, and an empty one adds
nothing. -/
def write (b : Builder) (content : String) : Except ArenaFault Builder :=
  if content.isEmpty then .ok b
  else do
    match ← look b.last b.opened.length with
    | none => b.append (.text content)
    | some previous =>
      match (← look b.records previous).content with
      | .element _ _ => b.append (.text content)
      | .text existing =>
        let records ← change b.records previous fun r =>
          { r with content := .text (existing ++ content) }
        .ok { b with records }

/-- The level of the innermost element of a name, where the open elements are given from the
innermost outward. -/
def level? (records : List Record) (name : String) : List Nat → Except ArenaFault (Option Nat)
  | [] => .ok none
  | id :: outer => do
    if (← look records id).content.name == name then .ok (some outer.length)
    else level? records name outer

/-- An end tag is read at a position. -/
def close (mode : Mode) (position : Nat) (name : String) (b : Builder) :
    Except ArenaFault Builder :=
  if isVoid name then .ok b
  else do
    match ← level? b.records name b.opened.reverse, mode with
    | none, .lenient => .ok b
    | none, .strict => .error (.markup (.unmatchedEndTag position name))
    | some level, mode =>
      if mode = .strict ∧ level + 1 ≠ b.opened.length then
        let innermost ← look b.records (← look b.opened (b.opened.length - 1))
        .error (.markup (.mismatchedEndTag position innermost.content.name name))
      else .ok { b with opened := b.opened.take level, last := b.last.take (level + 1) }

/-- An event is read at a position. -/
def step (mode : Mode) (b : Builder) : Nat × Event → Except ArenaFault Builder
  | (_, .start name attributes) =>
    if isVoid name then b.append (.element name attributes) else b.enter name attributes
  | (_, .selfClosed name attributes) => b.append (.element name attributes)
  | (position, .finish name) => b.close mode position name
  | (_, .text content) => b.write content

/-- The arena when all is read. What is still open is left as it is, or reported. -/
def finish (mode : Mode) (b : Builder) : Except ArenaFault Arena :=
  match mode, b.opened.getLast? with
  | .strict, some innermost => do
    .error (.markup (.unclosedElement (← look b.records innermost).content.name))
  | _, _ => .ok b.toArena

end Builder

/-! ### Normal form -/

namespace Arena

/-- The arena of a reading, not in normal form yet. -/
def build (mode : Mode) (r : Reading) : Except ArenaFault Arena := do
  let b ← r.events.foldlM (Builder.step mode) .empty
  match r.fault with
  | some (position, fault) => .error (.markup (.syntaxFault position fault))
  | none => b.finish mode

/-- The nodes that are not blank in the chain of siblings from one on, with what they are. -/
def visible (records : List Record) : Nat → Option Nat → Except ArenaFault (List (Nat × Content))
  | _, none => .ok []
  | 0, some _ => .error .endless
  | fuel + 1, some id => do
    let r ← look records id
    let later ← visible records fuel r.nextSibling
    .ok (if r.content.isBlank then later else (id, r.content) :: later)

/-- The records of these nodes, of their later siblings and of all that is below, one level
deeper. -/
def deepen : Nat → List Nat → List Record → Except ArenaFault (List Record)
  | _, [], records => .ok records
  | 0, _ :: _, _ => .error .endless
  | fuel + 1, id :: pending, records => do
    let r ← look records id
    let deeper ← change records id Record.deepen
    deepen fuel (r.nextSibling.toList ++ (r.firstChild.toList ++ pending)) deeper

/-- The arena with a new element around the chain of siblings from one on, which goes one level
deeper. Nothing is linked to the element yet. -/
def wrap (a : Arena) (name : String) (depth : Nat) (first : Option Nat) :
    Except ArenaFault Arena := do
  let records ← deepen a.records.length first.toList a.records
  .ok { a with records := records ++ [⟨.element name [], first, none, depth⟩] }

/-- The `html` element that is the only node of a row. -/
def onlyHtml? : List (Nat × Content) → Option Nat
  | [(only, content)] => if content.name == "html" then some only else none
  | _ => none

/-- The `head` element that comes first in a row. -/
def leadingHead? : List (Nat × Content) → Option Nat
  | (first, content) :: _ => if content.name == "head" then some first else none
  | [] => none

/-- The arena with a new `body` around the chain of siblings from one on, and with another record
linked to it. -/
def bodyAround (a : Arena) (first : Option Nat) (i : Nat) (linked : Nat → Record → Record) :
    Except ArenaFault Arena := do
  let around ← a.wrap "body" 1 first
  let records ← change around.records i (linked a.records.length)
  .ok { around with records }

/-- The arena with a `body` among the children of its root: behind a leading `head`, around what
follows it, or else around all of them. -/
def withBody (root : Nat) (a : Arena) : Except ArenaFault Arena := do
  let html ← look a.records root
  let children ← visible a.records a.records.length html.firstChild
  if children.any (·.2.name == "body") then .ok a
  else
    match leadingHead? children with
    | some i =>
      let head ← look a.records i
      a.bodyAround head.nextSibling i fun body r => { r with nextSibling := some body }
    | none => a.bodyAround html.firstChild root fun body r => { r with firstChild := some body }

/-- The arena in normal form. -/
def normalize (a : Arena) : Except ArenaFault Arena := do
  let top ← visible a.records a.records.length a.first
  if top.isEmpty then .ok a
  else
    match onlyHtml? top with
    | some root => a.withBody root
    | none =>
      let html := a.records.length
      let around ← a.wrap "html" 0 a.first
      { around with first := some html }.withBody html

/-- The arena that a source stands for. -/
def read (source : String) (mode : Mode) : Except ArenaFault Arena :=
  build mode (.ofSource source) >>= normalize

end Arena

end Stencil
