import Stencil.Capture.Dispatcher
import Stencil.Matching.Matcher

/-!
# Matching — Run

A pattern against a whole document, and what is told of it: the calls of capture handlers, the
deepest node before which the pattern ran out, and a line that sums the match up.
-/

namespace Stencil

/-- The pattern against the whole of a document, from a scope that binds nothing. -/
def Pattern.run (p : Pattern) (d : Document) : Attempt := p.matcher d.outline .fresh

namespace Happening

/-- The node before which some part of the pattern ran out. -/
def ranOut? : Happening → Option Site
  | ranOut s => some s
  | captured _ _ _ => none

/-- The answer of the handler for a capture that was bound. -/
def dispatch? {α : Type} (d : Dispatcher α) : Happening → Option α
  | captured name _ scope => d.dispatch name scope
  | ranOut _ => none

end Happening

/-- The later of two nodes, unless the earlier one is deeper. -/
def Site.deeper (earlier : Option Site) (later : Site) : Option Site :=
  match earlier with
  | some s => if s.depth ≤ later.depth then some later else some s
  | none => some later

namespace Attempt

/-- The answers of the handlers for the captures that were bound, in order. -/
def dispatch {α : Type} (d : Dispatcher α) (a : Attempt) : List α :=
  a.trace.filterMap (·.dispatch? d)

/-- The nodes before which some part of the pattern ran out, in order. -/
def ranOut (a : Attempt) : List Site := a.trace.filterMap (·.ranOut?)

/-- The last of the deepest nodes before which some part of the pattern ran out. -/
def deepest (a : Attempt) : Option Site := a.ranOut.foldl Site.deeper none

/-- Where the template ran out, if that is not told by the node that is left over. -/
def divergence (a : Attempt) : String :=
  match a.deepest with
  | some s =>
    if a.verdict.site?.map Site.place = some s.place then ""
    else " (template ran out before " ++ s.describe ++ ")"
  | none => ""

/-- The line that sums a match up. -/
def summary (a : Attempt) : String :=
  match a.verdict with
  | .valid _ => "valid"
  | .leftover s _ => "partial at " ++ s.describe ++ a.divergence
  | .invalid => "invalid" ++ a.divergence

end Attempt

end Stencil
