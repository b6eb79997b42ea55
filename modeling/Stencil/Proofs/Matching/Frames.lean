import Stencil.Proofs.Matching.Uniform

/-!
# Matching — the frames of the scope that is given

A match leaves all frames of the scope that it is given where they are, and all but the innermost
one as they are; in that one it binds names, and takes none away
(`Pattern.only_innermost_frame_changes`). This is so for every verdict, since what is bound in
attempts that fail is bound from the same scope on.
-/

namespace Stencil

theorem Scope.depth_eq (s : Scope) : s.depth = s.outer.length + 1 := List.length_cons

namespace Pattern

/-- **A match only ever changes the innermost frame.** Whatever it comes to, the scope that it
returns has the frames that were given, perhaps with others inside of them. Those around the
innermost one are the same. The innermost one binds all names that it bound, and to the same texts
but for those that the match itself, started from a fresh scope, binds in the frame that was there
from the start. -/
theorem only_innermost_frame_changes (p : Pattern) (pos : Position) (s : Scope) :
    let after := (p.matcher pos s).scope
    let bound := (p.matcher pos .fresh).scope.outermost
    ∃ pushed f, after.frames = pushed ++ f :: s.outer ∧
      after.depth = pushed.length + s.depth ∧
      s.innermost.names ⊆ f.names ∧
      ∀ name, f.get? name = (bound.get? name).or (s.innermost.get? name) := by
  intro after bound
  have onto : after = (p.matcher pos .fresh).scope.onto s :=
    congrArg Attempt.scope (p.matcher_onto pos s)
  obtain ⟨pushed, frames⟩ := Scope.frames_onto (p.matcher pos .fresh).scope s
  rw [← onto] at frames
  refine ⟨pushed, _, frames, ?_, s.innermost.names_subset_merge bound, s.innermost.get?_merge bound⟩
  rw [Scope.depth, frames, List.length_append, List.length_cons, s.depth_eq]

end Pattern

end Stencil
