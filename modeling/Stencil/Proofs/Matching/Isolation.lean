import Stencil.Proofs.Matching.Lasting

/-!
# Matching — frames of their own

What is captured below a scope operator lands in the frame that the operator pushes, and the frames
that were there before are left alone (`Pattern.scoped_captures_apart`), unless the operator stands
behind an element: an element puts what its siblings bound in their innermost frame into its own,
whoever pushed that frame (`Pattern.scoped_capture_outside`).
-/

namespace Stencil

namespace Pattern

/-- The names of the captures that stand below no scope operator. -/
def unscoped : Pattern → List String
  | nil => []
  | node kind child next =>
    kind.captureName?.toList ++ (if kind = .scope then [] else child.unscoped) ++ next.unscoped

/-- The names of the captures that last and stand behind an element, where the element stands below
no scope operator and is not thrown away. -/
def poured : Pattern → List String
  | nil => []
  | node kind child next =>
    match kind with
    | .element _ => child.poured ++ next.lasting ++ next.poured
    | .scope | .many | .wildcardExcept => next.poured
    | _ => child.poured ++ next.poured

theorem unscoped_subset_node (kind : Kind) (child next : Pattern) :
    next.unscoped ⊆ (node kind child next).unscoped := List.subset_append_right _ _

theorem poured_subset_node (kind : Kind) (child next : Pattern) :
    next.poured ⊆ (node kind child next).poured := by
  cases kind with
  | scope | many | wildcardExcept => exact List.Subset.refl _
  | _ => exact List.subset_append_right _ _

end Pattern

/-! ### The outermost frame -/

namespace Matcher

/-- A name that is not bound in the outermost frame at the start is not bound there at the end. -/
def Avoids (name : String) (m : Matcher) : Prop :=
  Keeps (fun s => s.outermost.get? name = none) m

variable {name : String} {child next : Matcher}

/-- Whatever the child does, it does it above the frames that were there before. -/
theorem avoids_framed (hc : Uniform child) : Avoids name (framed child) := by
  intro pos s free
  have same : (framed child pos s).scope.outermost = s.outermost := by
    rw [framed, hc.eq_fresh, Attempt.onto_scope]
    exact Scope.outermost_onto_inside _ .empty s
  rw [same]
  exact free

/-- What the siblings of an element bound in their innermost frame goes into that of its children,
which can be the outermost one. -/
theorem avoids_element {tag : String} (hc : Avoids name child) (hn : Uniform next)
    (free : ∀ pos, (next pos .fresh).scope.innermost.get? name = none) :
    Avoids name (element tag child next) := by
  rintro (_ | ⟨⟨place, tag', children⟩ | ⟨place, content⟩, rest⟩) s held
  · exact held
  · have inner := hc children s held
    rw [element]
    split
    · dsimp only
      split
      · rw [hn.mergeInnermost_eq, Scope.get?_outermost_mergeInnermost _ (free rest)]
        exact inner
      · exact inner
    · exact held
  · exact held

end Matcher

namespace Pattern

variable {name : String}

/-- A name that is captured below scope operators only, and not behind an element, is not bound in
the outermost frame. -/
theorem avoids_matcher (p : Pattern) : name ∉ p.unscoped → name ∉ p.poured →
    Matcher.Avoids name p.matcher := by
  induction p using branch_induction with
  | nil => exact fun _ _ => by rw [matcher]; exact Matcher.keeps_of_scope Matcher.scope_ending
  | node kind child next ihb ihn =>
    intro below apart
    have later := ihn (mt (@unscoped_subset_node kind child next name) below)
      (mt (@poured_subset_node kind child next name) apart)
    -- outside of scope operators, the branches of the child are no different
    have branches : kind ≠ .scope → (∀ n ∈ child.poured, n ∈ (node kind child next).poured) →
        ∀ b ∈ child :: child.branchesAfter, Matcher.Avoids name b.matcher := by
      intro other poured b mem
      refine ihb b mem (fun low => below ?_) fun low => apart (poured name ?_)
      · rw [unscoped, if_neg other]
        exact List.mem_append_left _ (List.mem_append_right _
          (subset_of_mem_branches unscoped_subset_node mem low))
      · exact subset_of_mem_branches poured_subset_node mem low
    refine keeps_node later (fun tag eq => ?_) (fun eq => ?_) (fun n eq => ?_) (fun eq => ?_)
    · subst eq
      have inner := branches (by simp) (fun n mem => by simp [poured, mem]) child List.mem_cons_self
      refine Matcher.avoids_element inner (matcher_of_closed Matcher.closed_uniform next) ?_
      intro pos
      by_contra bound
      have within : (next.matcher pos .fresh).scope.Within next.lasting :=
        next.bindsOnly_matcher (fun _ mem => mem) pos .fresh Scope.within_fresh
      have mem := within _ List.mem_cons_self name bound
      exact apart (by simp [poured, mem])
    · exact Matcher.avoids_framed (matcher_of_closed Matcher.closed_uniform child)
    · subst eq
      have other : name ≠ n := by
        rintro rfl
        exact below (by simp [unscoped, Kind.captureName?])
      have inner := branches (by simp) (fun n mem => by simp [poured, mem]) child List.mem_cons_self
      refine Matcher.keeps_capture (fun s value free => ?_) inner
      rw [Scope.get?_outermost_assign s value other]
      exact free
    · subst eq
      exact branches (by simp) fun n mem => by simp [poured, mem]

/-- **Captures below a scope operator stay out of the frames that were there before.** If every
capture of a name stands below a scope operator, and none that lasts stands behind an element
outside of these operators, then whatever a run comes to, the outermost frame of the scope that it
returns does not bind the name. From any scope, a match leaves the frames around the innermost one
as they are, and the name in the innermost one bound to what it was bound to. -/
theorem scoped_captures_apart (p : Pattern) (d : Document) {name : String}
    (below : name ∉ p.unscoped) (apart : name ∉ p.poured) :
    (p.run d).scope.outermost.get? name = none ∧
      ∀ pos s, ∃ pushed f, (p.matcher pos s).scope.frames = pushed ++ f :: s.outer ∧
        f.get? name = s.innermost.get? name := by
  refine ⟨p.avoids_matcher below apart d.outline .fresh rfl, fun pos s => ?_⟩
  have free : (p.matcher pos .fresh).scope.outermost.get? name = none :=
    p.avoids_matcher below apart pos .fresh rfl
  obtain ⟨pushed, frames⟩ := Scope.frames_onto (p.matcher pos .fresh).scope s
  rw [← Attempt.onto_scope, ← matcher_onto] at frames
  exact ⟨pushed, _, frames, by rw [NameMap.get?_merge, free, Option.none_or]⟩

/-- A scope operator in a first paragraph, with a capture behind it. -/
theorem scoped_captures_apart_first :
    ∃ p d, Template.compile ("<div>\x7bscope\x7d\x7b$x\x7dhi\x7b/$x\x7d\x7b/scope\x7d</div>" ++
        "<p>\x7b$y\x7d\x7b...\x7d\x7b/$y\x7d</p>") = .ok p ∧
      Document.read "<div>hi</div><p>yo</p>" .lenient = .ok d ∧ (p.run d).verdict.isValid ∧
      (p.run d).scope.get? "x" = some "hi" ∧ (p.run d).scope.outermost.get? "x" = none := by
  refine ⟨_, _, by cbv, by cbv, ?_, ?_, (scoped_captures_apart _ _ ?_ ?_).1⟩
  · cbv
  · cbv
  · decide
  · decide

/-- A scope operator behind a paragraph: its frame is lost, and its capture goes into the frame
that was there before. -/
theorem scoped_capture_outside :
    ∃ p d, Template.compile "<p></p>\x7bscope\x7d\x7b$x\x7dhi\x7b/$x\x7d\x7b/scope\x7d" = .ok p ∧
      Document.read "<p></p>hi" .lenient = .ok d ∧ "x" ∉ p.unscoped ∧
      (p.run d).scope.depth = 1 ∧ (p.run d).scope.outermost.get? "x" = some "hi" :=
  ⟨_, _, by cbv, by cbv, by decide, by cbv, by cbv⟩

end Pattern

end Stencil
