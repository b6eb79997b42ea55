import Stencil.Proofs.Matching.Isolation

/-!
# Matching — what the siblings of an element bind

An element returns the scope of its children with what its siblings bound in their innermost frame.
That shows the same as the scope that the siblings returned, for just those names that the siblings
did not leave bound below their innermost frame alone (`Pattern.element_folds_back`): below it stand
names that were captured in a branch of an alternative, when a scope operator behind the alternative
pushed a frame (`Pattern.branch_capture_lost`).
-/

namespace Stencil

namespace Pattern

/-- The names of the captures that last in an alternative behind which a frame can be pushed. -/
def buried : Pattern → List String
  | nil => []
  | node kind child next =>
    (if kind.forgets then [] else child.buried) ++
      (if kind = .either ∧ .push ∈ next.effects then child.lasting else []) ++ next.buried

theorem buried_subset_node (kind : Kind) (child next : Pattern) :
    next.buried ⊆ (node kind child next).buried := List.subset_append_right _ _

theorem lasting_subset_node (kind : Kind) (child next : Pattern) :
    next.lasting ⊆ (node kind child next).lasting := List.subset_append_right _ _

variable {name : String}

/-- A pattern that pushes no frame returns the frames that it was given. -/
theorem outer_of_not_push {p : Pattern} (h : .push ∉ p.effects) (pos : Position) :
    (p.matcher pos .fresh).scope.outer = [] := by
  refine keeps_matcher (Q := fun s => s.outer = []) (fun _ _ outer _ => outer) p (fun e mem => ?_)
    pos .fresh rfl
  cases e with
  | bind n => exact fun _ _ outer => outer
  | push => exact absurd mem h

/-- A pattern in which no capture of a name lasts does not bind it. -/
theorem get?_of_not_lasting {p : Pattern} (h : name ∉ p.lasting) (pos : Position) :
    (p.matcher pos .fresh).scope.get? name = none :=
  (p.bindsOnly_matcher (fun _ mem => mem) pos .fresh Scope.within_fresh).get?_eq_none h

end Pattern

namespace Matcher

variable {name : String} {child next : Matcher}

/-- What a match binds to a name shows in the innermost frame. -/
def BindsOnTop (name : String) (m : Matcher) : Prop := Returns (Scope.OnTop name) .fresh m

theorem bindsOnTop_element {tag : String} (hc : BindsOnTop name child) :
    BindsOnTop name (element tag child next) := by
  rintro (_ | ⟨⟨place, tag', children⟩ | ⟨place, content⟩, rest⟩)
  · exact Scope.onTop_fresh
  · rw [element]
    split
    · dsimp only
      split
      · exact (hc children).mergeInnermost _
      · exact hc children
    · exact Scope.onTop_fresh
  · exact Scope.onTop_fresh

theorem bindsOnTop_framed (hu : Uniform child) (hc : BindsOnTop name child) :
    BindsOnTop name (framed child) := by
  intro pos
  rw [framed, hu.eq_fresh, Attempt.onto_scope]
  exact (hc pos).onto (Scope.onTop_of_get?_eq_none rfl) (.inr rfl)

theorem bindsOnTop_capture {n : String} (hc : BindsOnTop name child) :
    BindsOnTop name (capture n child) := by
  intro pos
  rw [capture]
  dsimp only
  split
  · exact (hc pos).assign _ _
  · exact hc pos

/-- What a branch binds shows in the innermost frame behind it, if no frame is pushed there or the
branch does not bind the name. -/
theorem bindsOnTop_either {branches : List Matcher} (hb : ∀ b ∈ branches, BindsOnTop name b)
    (hu : Uniform next) (hn : BindsOnTop name next)
    (apart : (∀ pos, (next pos .fresh).scope.outer = []) ∨
      ∀ b ∈ branches, ∀ pos, (b pos .fresh).scope.get? name = none) :
    BindsOnTop name (either branches next) := by
  refine returns_either Scope.onTop_fresh fun b mem pos pos' => ?_
  rw [hu.eq_fresh, Attempt.onto_scope]
  exact (hn pos').onto (hb b mem pos) (apart.imp (· pos') (· b mem pos))

end Matcher

namespace Pattern

variable {name : String}

/-- What a pattern binds to a name shows in the innermost frame of the scope that it returns, unless
the name is captured in an alternative behind which a frame can be pushed. -/
theorem bindsOnTop_matcher (p : Pattern) : name ∉ p.buried → Matcher.BindsOnTop name p.matcher := by
  induction p using branch_induction with
  | nil =>
    intro _ pos
    rw [matcher, Matcher.scope_ending]
    exact Scope.onTop_fresh
  | node kind child next ihb ihn =>
    intro free
    have later := ihn (mt (@buried_subset_node kind child next name) free)
    -- a kind that hands on what its child binds hands on what the branches of the child bind
    have branches : kind.forgets = false → ∀ b ∈ child :: child.branchesAfter,
        Matcher.BindsOnTop name b.matcher := by
      intro kept b mem
      refine ihb b mem fun low => free ?_
      rw [buried, kept]
      exact List.mem_append_left _ (List.mem_append_left _
        (subset_of_mem_branches buried_subset_node mem low))
    refine returns_node Scope.onTop_fresh later (fun tag eq => ?_) (fun eq => ?_) (fun n eq => ?_)
      (fun eq => ?_)
    · exact Matcher.bindsOnTop_element (branches (by rw [eq]; rfl) child List.mem_cons_self)
    · exact Matcher.bindsOnTop_framed (matcher_of_closed Matcher.closed_uniform child)
        (branches (by rw [eq]; rfl) child List.mem_cons_self)
    · exact Matcher.bindsOnTop_capture (branches (by rw [eq]; rfl) child List.mem_cons_self)
    · rw [laterBranches_eq, ← List.map_cons]
      refine Matcher.bindsOnTop_either (List.forall_mem_map.mpr (branches (by rw [eq]; rfl)))
        (matcher_of_closed Matcher.closed_uniform next) later ?_
      by_cases pushes : .push ∈ next.effects
      · have absent : name ∉ child.lasting := fun low => free (by simp [buried, eq, pushes, low])
        refine .inr (List.forall_mem_map.mpr fun b mem => get?_of_not_lasting fun low => absent ?_)
        exact subset_of_mem_branches lasting_subset_node mem low
      · exact .inl (outer_of_not_push pushes)

/-- **An element folds back what its siblings bind, unless they left it below their innermost
frame.** Where the children of an element are valid, its siblings are matched from the scope that
the children returned. A name shows the same in the scope that the element returns as in the one
that its siblings returned, if and only if all that the siblings bound to the name shows in their
innermost frame, or shows without them too. This is so for every name that is not captured in an
alternative among the siblings behind which a frame can be pushed. -/
theorem element_folds_back (tag : String) (child next : Pattern) (place : Place)
    (children rest : List Site) (s : Scope) (valid : (child.matcher children s).verdict.isValid) :
    let inner := child.matcher children s
    let after := next.matcher rest inner.scope
    let answer := (node (.element tag) child next).matcher (.element place tag children :: rest) s
    let bound := (next.matcher rest .fresh).scope
    ∀ name,
      (answer.scope.get? name = after.scope.get? name ↔
          bound.OnTop name ∨ bound.get? name = inner.scope.get? name) ∧
        (name ∉ next.buried → answer.scope.get? name = after.scope.get? name) := by
  intro inner after answer bound name
  have uniform : Matcher.Uniform next.matcher := matcher_of_closed Matcher.closed_uniform next
  have after_eq : after.scope = bound.onto inner.scope := by
    rw [show after = _ from uniform.eq_fresh rest inner.scope, Attempt.onto_scope]
  have opened : (node (.element tag) child next).matcher =
      .element tag child.matcher next.matcher := by rw [matcher]
  have answer_eq : answer.scope = inner.scope.mergeInnermost bound := by
    rw [show answer = _ from congrFun (congrFun opened _) s, Matcher.element_of_valid valid]
    exact uniform.mergeInnermost_eq rest inner.scope
  have same : answer.scope.get? name = after.scope.get? name ↔
      bound.OnTop name ∨ bound.get? name = inner.scope.get? name := by
    rw [answer_eq, after_eq]
    exact Scope.get?_mergeInnermost_eq_iff inner.scope bound name
  exact ⟨same, fun free => same.mpr (.inl (next.bindsOnTop_matcher free rest))⟩

/-- A first paragraph, with a text that was kept in a frame behind it. -/
theorem element_folds_back_note :
    let child := node (.capture "x") (node .wildcard nil nil) nil
    let next := node .either (node (.element "hr") nil nil)
      (node .scope (node (.capture "y") (node (.literal "hi") nil nil) nil) nil)
    let rest : Position := [.element ⟨[1], 0⟩ "hr" [], .text ⟨[2], 0⟩ "hi"]
    let inner := child.matcher [] .fresh
    let after := next.matcher rest inner.scope
    let answer := (node (.element "p") child next).matcher
      (.element ⟨[0], 0⟩ "p" [] :: rest) .fresh
    inner.verdict.isValid ∧ after.scope.depth = 2 ∧ "y" ∉ next.buried ∧
      answer.scope.get? "y" = after.scope.get? "y" := by
  intro child next rest inner after answer
  have valid : inner.verdict.isValid := by cbv
  have free : "y" ∉ next.buried := by decide
  have pushed : after.scope.depth = 2 := by
    dsimp only [after, inner, child, next, rest]
    cbv
  exact ⟨valid, pushed, free,
    (element_folds_back "p" child next ⟨[0], 0⟩ [] rest .fresh valid "y").2 free⟩

/-- A paragraph with a text behind it that is kept in a branch, and a frame that is pushed behind
this. -/
theorem branch_capture_lost :
    let child := nil
    let next := node .either (node (.capture "x") (node (.literal "hi") nil nil) nil)
      (node .scope (node .wildcard nil nil) nil)
    let rest : Position := [.text ⟨[0, 0, 1], 2⟩ "hi"]
    let inner := child.matcher [] .fresh
    let after := next.matcher rest inner.scope
    let answer := (node (.element "p") child next).matcher
      (.element ⟨[0, 0, 0], 2⟩ "p" [] :: rest) .fresh
    inner.verdict.isValid ∧ after.scope.get? "x" = some "hi" ∧ answer.scope.get? "x" = none ∧
      ∃ p d, Template.compile ("<p></p>\x7beither\x7d\x7b$x\x7dhi\x7b/$x\x7d\x7b/either\x7d" ++
          "\x7bscope\x7d\x7b...\x7d\x7b/scope\x7d") = .ok p ∧
        p = node (.element "html") (node (.element "body") (node (.element "p") child next) nil)
          nil ∧
        Document.read "<p></p>hi" .lenient = .ok d ∧ (p.run d).verdict.isValid ∧
        (p.run d).scope.get? "x" = none := by
  dsimp only
  exact ⟨by cbv, by cbv, by cbv, _, _, by cbv, rfl, by cbv, by cbv, by cbv⟩

end Pattern

end Stencil
