import Stencil.Markup.Error
import Stencil.Template.Operator

/-!
# Template — Error

What can be wrong with a template, and how it is reported.
-/

namespace Stencil

open Template

/-- Why a template is not compiled. Offsets count bytes from the start of the template. What the
engine of regular expressions has against an expression is left out, also at the end of the report,
where it would stand. -/
inductive TemplateError where
  | unterminatedOperator (token : String) (offset : Nat)
  | unexpectedClose (token : String) (offset : Nat)
  | mismatchedClose (expected found : String) (offset : Nat)
  | unterminatedRegex (offset : Nat)
  | emptyRegex (offset : Nat)
  | invalidCaptureName (name : String) (offset : Nat)
  | optionOutsideAlternative (offset : Nat)
  | markerWithContent (marker : Marker)
  | missingAttribute (marker : Marker) (key : String)
  | invalidRegex (expression : String)
  | emptyTemplate
  | markup (error : Markup.MarkupError)
  deriving DecidableEq, Repr

/-- The report of an error. -/
def TemplateError.message : TemplateError → String
  | .unterminatedOperator token offset =>
    "Operator " ++ token ++ " at byte " ++ toString offset ++ " is never closed"
  | .unexpectedClose token offset =>
    "Closing operator " ++ token ++ " at byte " ++ toString offset ++ " has nothing to close"
  | .mismatchedClose expected found offset =>
    "Found " ++ found ++ " at byte " ++ toString offset ++ " while " ++ expected ++
      " is still open"
  | .unterminatedRegex offset =>
    "Regular expression at byte " ++ toString offset ++ " is missing its closing '/\x7d'"
  | .emptyRegex offset => "Empty regular expression at byte " ++ toString offset
  | .invalidCaptureName name offset =>
    "Invalid capture name " ++ Text.quoted name ++ " at byte " ++ toString offset
  | .optionOutsideAlternative offset =>
    "\x7bor\x7d at byte " ++ toString offset ++ " is not inside \x7beither\x7d"
  | .markerWithContent marker => marker.name ++ " cannot have content"
  | .missingAttribute marker key =>
    marker.name ++ " is missing its " ++ Text.quoted key ++ " attribute"
  | .invalidRegex expression => "Invalid regular expression /" ++ expression ++ "/"
  | .emptyTemplate => "Template is empty"
  | .markup error => "Template markup error: " ++ error.message

end Stencil
