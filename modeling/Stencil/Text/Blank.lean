import Stencil.Text.CharClass

/-!
# Text — Blank text

Text made of white space only, and texts without the white space at their ends.
-/

namespace Stencil.Text

/-- Whether a text holds nothing but white space. -/
def isBlank (s : String) : Bool := s.toList.all isWhite

/-- A text without the white space at either end. -/
def trim (cs : List Char) : List Char :=
  ((cs.dropWhile isWhite).reverse.dropWhile isWhite).reverse

end Stencil.Text
