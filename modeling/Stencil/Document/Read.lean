import Stencil.Document.Assembly
import Stencil.Document.Normal

/-!
# Document — Reading

Documents read from markup: the tree of the source, in normal form.
-/

namespace Stencil

namespace Document

/-- The document that a source stands for. -/
def read (source : String) (mode : Mode) : Except Markup.MarkupError Document :=
  (Assembly.ofReading mode (.ofSource source)).map fun top => ⟨normalized top⟩

end Document

end Stencil
