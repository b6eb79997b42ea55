import Stencil.Markup.Attribute
import Stencil.Markup.Piece

/-!
# Markup — Event

What the pieces of a source say: tags with their names in lower case, and texts with their
references resolved. Comments, declarations and instructions say nothing. Each event stands with
the byte at which its piece starts.
-/

namespace Stencil.Markup

open Text

/-- What a tag or a text says. -/
inductive Event where
  | start (name : String) (attributes : List Attribute)
  | selfClosed (name : String) (attributes : List Attribute)
  | finish (name : String)
  | text (content : String)
  deriving DecidableEq, Repr

/-- The name that the content of a start tag begins with, up to white space. -/
def tagName (content : List Char) : String := lowerCase (content.takeWhile inBareValue)

/-- The attributes in the content of a start tag, after its name. -/
def tagAttributes (content : List Char) : List Attribute :=
  attributes (content.dropWhile inBareValue)

/-- The name in an end tag: its content without white space at the end, unless it has nothing
else. -/
def endName (content : List Char) : String :=
  let name := (content.reverse.dropWhile isTagBlank).reverse
  lowerCase (if name.isEmpty then content else name)

/-- What a piece says. A start tag whose content ends in a slash has no end tag. -/
def Piece.event? : Piece → Option Event
  | .text raw => some (.text (String.ofList (decodeReferences raw)))
  | .cdata content => some (.text (String.ofList content))
  | .startTag content =>
    if content.getLast? = some '/' then
      some (.selfClosed (tagName content.dropLast) (tagAttributes content.dropLast))
    else some (.start (tagName content) (tagAttributes content))
  | .endTag content => some (.finish (endName content))
  | .comment _ | .doctype _ | .instruction _ => none

/-- The number of bytes of a text. -/
def byteLength : List Char → Nat
  | [] => 0
  | c :: rest => c.utf8Size + byteLength rest

/-- The events of consecutive pieces, the first of which starts at a position. -/
def eventsFrom (position : Nat) : List Piece → List (Nat × Event)
  | [] => []
  | p :: rest =>
    let later := eventsFrom (position + byteLength p.lexeme) rest
    match p.event? with
    | some event => (position, event) :: later
    | none => later

/-- The events of a source up to the first fault, and that fault with its position. -/
structure Reading where
  events : List (Nat × Event)
  fault : Option (Nat × SyntaxFault)
  deriving DecidableEq, Repr

/-- A source without the byte order mark at its start. -/
def dropMark : List Char → List Char
  | '\ufeff' :: rest => rest
  | s => s

/-- The events of a source. A byte order mark at the start is no part of it. -/
def Reading.ofSource (source : String) : Reading :=
  let cut := Pieces.ofSource (dropMark source.toList)
  { events := eventsFrom 0 cut.pieces
    fault := cut.fault.map (byteLength (cut.pieces.flatMap Piece.lexeme), ·) }

end Stencil.Markup
