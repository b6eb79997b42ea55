import Stencil.Capture.Scope
import Stencil.Matching.Outline

/-!
# Matching — Attempt

The answers of match attempts. A position is a node with its following siblings, or no node. An
attempt ends in a verdict and a scope, and leaves a trace of the captures that were bound and of
the nodes before which the pattern ran out.
-/

namespace Stencil

/-- A node, first, and the siblings after it; empty behind the last sibling. -/
abbrev Position := List Site

/-- How a match attempt ends. -/
inductive Verdict where
  /-- Pattern and siblings came to their end together. Leaves carry the text they matched. -/
  | valid (text : Option String)
  /-- The pattern came to its end before this node and the siblings after it. -/
  | leftover (site : Site) (after : List Site)
  /-- The siblings were rejected. -/
  | invalid

namespace Verdict

/-- Whether pattern and siblings came to their end together. -/
def isValid : Verdict → Bool
  | valid _ => true
  | _ => false

/-- Whether nodes are left over. -/
def isLeftover : Verdict → Bool
  | leftover _ _ => true
  | _ => false

/-- Whether the siblings were rejected. -/
def isInvalid : Verdict → Bool
  | invalid => true
  | _ => false

/-- The first node that is left over. -/
def site? : Verdict → Option Site
  | leftover s _ => some s
  | _ => none

/-- The text that a valid match carries. -/
def text? : Verdict → Option String
  | valid text => text
  | _ => none

end Verdict

/-- What happens on the way of an attempt. -/
inductive Happening where
  /-- A text was bound to a name; the scope is the one right after. -/
  | captured (name value : String) (scope : Scope)
  /-- Some part of the pattern came to its end before this node. -/
  | ranOut (site : Site)

/-- The answer of a match attempt: its verdict, the scope it returns, and what happened on its way,
in order. -/
structure Attempt where
  verdict : Verdict
  scope : Scope
  trace : List Happening

namespace Attempt

/-- An answer before which other things happened. -/
def after (trace : List Happening) (a : Attempt) : Attempt := { a with trace := trace ++ a.trace }

/-- An answer on whose way nothing happened. -/
def quiet (verdict : Verdict) (scope : Scope) : Attempt := ⟨verdict, scope, []⟩

end Attempt

/-- What a pattern does with a position and a scope. -/
abbrev Matcher := Position → Scope → Attempt

end Stencil
