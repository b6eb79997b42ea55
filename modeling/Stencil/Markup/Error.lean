import Stencil.Text.Quoted

/-!
# Markup — Error

What can be wrong with markup, and how it is reported.
-/

namespace Stencil.Markup

/-- The faults that end the reading of a source at a piece of markup. -/
inductive SyntaxFault where
  | unknownMarkup
  | openInstruction
  | openComment
  | openDoctype
  | openCData
  | openTag
  | namelessDoctype
  deriving DecidableEq, Repr

namespace SyntaxFault

/-- The report of a piece whose end is missing. -/
def missingEnd (piece mark : String) : String :=
  "syntax error: " ++ piece ++ " not closed: `" ++ mark ++ "` not found before end of input"

/-- The report of a fault. -/
def message : SyntaxFault → String
  | unknownMarkup => "syntax error: unknown or missed symbol in markup"
  | openInstruction => missingEnd "processing instruction or xml declaration" "?>"
  | openComment => missingEnd "comment" "-->"
  | openDoctype => missingEnd "DOCTYPE" ">"
  | openCData => missingEnd "CDATA" "]]>"
  | openTag => missingEnd "tag" ">"
  | namelessDoctype =>
    "ill-formed document: `<!DOCTYPE>` declaration does not contain a name of a document type"

end SyntaxFault

/-- Why a source is not read as a document. Positions count bytes from the start of the source. -/
inductive MarkupError where
  | syntaxFault (position : Nat) (fault : SyntaxFault)
  | unmatchedEndTag (position : Nat) (name : String)
  | mismatchedEndTag (position : Nat) (expected found : String)
  | unclosedElement (name : String)
  | unknownCharset (label : String)
  deriving DecidableEq, Repr

/-- The report of an error. -/
def MarkupError.message : MarkupError → String
  | .syntaxFault position fault =>
    "Markup syntax error at byte " ++ toString position ++ ": " ++ fault.message
  | .unmatchedEndTag position name =>
    "End tag </" ++ name ++ "> at byte " ++ toString position ++ " has no start tag"
  | .mismatchedEndTag position expected found =>
    "Expected </" ++ expected ++ "> at byte " ++ toString position ++ " but found </" ++ found ++
      ">"
  | .unclosedElement name => "Element <" ++ name ++ "> is never closed"
  | .unknownCharset label => "Unknown character set: " ++ Text.quoted label

end Stencil.Markup
