import Stencil.Capture.NameMap
import Stencil.Text.Quoted

/-!
# Capture — Scope

Nested frames of captured texts. A name is looked up from the innermost frame outward, and bound
in the innermost one.
-/

namespace Stencil

/-- The texts that one frame binds to names. -/
abbrev Frame := NameMap String

/-- A stack of frames, never empty: the innermost frame, and the others from it outward. -/
structure Scope where
  innermost : Frame
  outer : List Frame
  deriving DecidableEq

namespace Scope

/-- A single frame that binds nothing. -/
def fresh : Scope := ⟨.empty, []⟩

/-- The stack with one more frame inside. -/
def push (s : Scope) : Scope := ⟨.empty, s.innermost :: s.outer⟩

/-- The stack with a name bound in the innermost frame. -/
def assign (s : Scope) (name value : String) : Scope :=
  { s with innermost := s.innermost.insert name value }

/-- The frames from the innermost outward. -/
def frames (s : Scope) : List Frame := s.innermost :: s.outer

/-- The text bound to a name in the innermost frame that binds it. -/
def get? (s : Scope) (name : String) : Option String := s.frames.findSome? (·.get? name)

/-- The first stack with the bindings of the second one's innermost frame put into its own. -/
def mergeInnermost (s other : Scope) : Scope :=
  { s with innermost := s.innermost.merge other.innermost }

/-- The number of frames. -/
def depth (s : Scope) : Nat := s.frames.length

/-- The bindings that show from inside: an inner one hides an outer one of its name. -/
def visible (s : Scope) : NameMap String := s.frames.foldr (fun f m => m.merge f) .empty

/-- A frame as text: its bindings in braces, the texts quoted. -/
def renderFrame (f : Frame) : String :=
  "\x7b" ++ ", ".intercalate (f.toList.map fun b => b.1 ++ "=" ++ Text.quoted b.2) ++ "\x7d"

/-- The stack as text: its frames in brackets, the outermost first. -/
def render (s : Scope) : String :=
  "[" ++ " ".intercalate (s.frames.reverse.map renderFrame) ++ "]"

end Scope

end Stencil
