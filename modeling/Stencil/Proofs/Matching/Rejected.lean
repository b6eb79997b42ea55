import Stencil.Proofs.Matching.Folding

/-!
# Matching — what a rejected match leaves behind

A match that is rejected should return the scope that it was given, as wildcards, repetitions and
alternatives without a matching branch do. But an element whose children matched returns their scope
when its siblings are rejected, and an alternative goes on in the scope of the branch that it took.
So there are parts of a pattern that stand when the match is rejected (`Pattern.Stood`), and it is
what they bound that is left behind, and nothing else (`Pattern.rejected_keeps_what_stood`).
-/

namespace Stencil

/-- A scope in which no name is visible has empty frames. -/
theorem Scope.eq_empty_of_get?_eq_none {s : Scope} (h : ∀ name, s.get? name = none) :
    ∀ f ∈ s.frames, f = .empty := fun f mem =>
  NameMap.ext_get? fun name => List.findSome?_eq_none_iff.mp (h name) f mem

namespace Matcher

variable {next forbidden : Matcher} {s : Scope}

theorem scope_atEnd_of_invalid (h : (atEnd next s).verdict = .invalid) :
    (atEnd next s).scope = s := by
  rw [atEnd] at h ⊢
  split
  · next valid =>
    rw [if_pos valid] at h
    cases h
  · rfl

/-- A wildcard that is rejected has undone what it tried. -/
theorem scope_wildcard_of_invalid (pos : Position) (h : (wildcard next pos s).verdict = .invalid) :
    (wildcard next pos s).scope = s := by
  induction pos with
  | nil => exact scope_atEnd_of_invalid h
  | cons x rest ih =>
    rw [wildcard] at h ⊢
    by_cases rejected : (next (x :: rest) s).verdict.isInvalid
    · rw [if_pos rejected] at h ⊢
      exact ih h
    · rw [if_neg rejected] at h
      rw [h] at rejected
      exact absurd rfl rejected

theorem scope_avoidingUntil_of_invalid (pos : Position)
    (h : (avoidingUntil forbidden next pos s).verdict = .invalid) :
    (avoidingUntil forbidden next pos s).scope = s := by
  induction pos with
  | nil => exact scope_atEnd_of_invalid h
  | cons x rest ih =>
    rw [avoidingUntil] at h ⊢
    dsimp only at h ⊢
    by_cases here : (next (x :: rest) s).verdict.isValid
    · rw [if_pos here] at h
      rw [h] at here
      cases here
    · rw [if_neg here] at h ⊢
      split
      · next probe =>
        rw [if_pos probe] at h
        exact ih h
      · rfl

end Matcher

namespace Pattern

/-! ### Parts that stand -/

/-- A part of a pattern that stands in a rejected match, with the row that it was matched with. It
is the children of an element or the branch that an alternative took, it has matched, and the rest
of the chain behind it is what was rejected. Rounds of a repetition, what a wildcard tried, probes
of a forbidden pattern and branches that did not match are no such parts. -/
inductive Stood : Pattern → Position → Pattern → Position → Prop
  | element {tag : String} {child next : Pattern} {place : Place} {children rest : List Site} :
      (child.verdict children).isValid → next.verdict rest = .invalid →
      Stood (node (.element tag) child next) (.element place tag children :: rest) child children
  | inside {tag : String} {child next part : Pattern} {place : Place} {children rest : List Site}
      {row : Position} : Stood child children part row →
      Stood (node (.element tag) child next) (.element place tag children :: rest) part row
  | behind {tag : String} {child next part : Pattern} {place : Place} {children rest : List Site}
      {row : Position} : (child.verdict children).isValid → Stood next rest part row →
      Stood (node (.element tag) child next) (.element place tag children :: rest) part row
  | unguarded {next part : Pattern} {pos row : Position} : next ≠ nil → Stood next pos part row →
      Stood (node .wildcardExcept nil next) pos part row
  | many {child next part : Pattern} {pos resumed row : Position} :
      child.resume? pos = some resumed → Stood next resumed part row →
      Stood (node .many child next) pos part row
  | scope {child next part : Pattern} {pos row : Position} : Stood child pos part row →
      Stood (node .scope child next) pos part row
  | capture {name : String} {child next part : Pattern} {pos row : Position} :
      Stood child pos part row → Stood (node (.capture name) child next) pos part row
  | branch {child next branch : Pattern} {s : Site} {rest : List Site} {resumed : Position} :
      taken? s rest (child :: child.branchesAfter) = some (branch, resumed) →
      next.verdict resumed = .invalid →
      Stood (node .either child next) (s :: rest) branch (s :: rest)
  | behindBranch {child next branch part : Pattern} {s : Site} {rest : List Site}
      {resumed row : Position} :
      taken? s rest (child :: child.branchesAfter) = some (branch, resumed) →
      Stood next resumed part row → Stood (node .either child next) (s :: rest) part row

variable {p child next part branch : Pattern} {pos row resumed : Position} {name : String}
  {s : Site} {rest children : List Site}

/-- Where a part stands, the match is rejected. -/
theorem Stood.rejected (h : p.Stood pos part row) : p.verdict pos = .invalid := by
  induction h with
  | element valid later => rw [verdict_element, if_pos valid, later]
  | inside _ ih =>
    rw [verdict_element, ih]
    rfl
  | behind valid _ ih => rw [verdict_element, if_pos valid, ih]
  | unguarded more _ ih => rw [verdict_wildcardExcept_nil more, ih]
  | many goesOn _ ih =>
    rw [verdict_many, goesOn]
    exact ih
  | scope _ ih => rw [verdict_scope, ih]
  | capture _ ih => rw [verdict_capture, ih]
  | branch taken later =>
    rw [verdict_either_cons, taken]
    exact later
  | behindBranch taken _ ih =>
    rw [verdict_either_cons, taken]
    exact ih

/-- A part that stands has matched. -/
theorem Stood.matched (h : p.Stood pos part row) : part.verdict row ≠ .invalid := by
  induction h with
  | element valid _ =>
    intro invalid
    rw [invalid] at valid
    cases valid
  | branch taken _ =>
    intro invalid
    rcases (taken_cases taken).2 with ⟨valid, -⟩ | ⟨t, after, -, left, -⟩
    · rw [invalid] at valid
      cases valid
    · rw [invalid] at left
      cases left
  | _ => assumption

/-! ### What a match binds -/

/-- The text that a match of a pattern at a position binds to a name, if it binds it. -/
def bound (p : Pattern) (pos : Position) (name : String) : Option String :=
  (p.matcher pos .fresh).scope.get? name

theorem bound_of_scope (h : (p.matcher pos .fresh).scope = .fresh) : p.bound pos name = none := by
  rw [bound, h]
  rfl

/-- A match that starts in the scope of another one adds to what that one bound. -/
theorem get?_matcher (p : Pattern) (pos : Position) (s : Scope) (name : String) :
    (p.matcher pos s).scope.get? name = (p.bound pos name).or (s.get? name) := by
  rw [matcher_onto, Attempt.onto_scope, Scope.get?_onto, bound]

theorem bound_element_of_valid {tag : String} {place : Place}
    (valid : (child.verdict children).isValid) :
    (node (.element tag) child next).bound (.element place tag children :: rest) name =
      ((next.matcher rest .fresh).scope.innermost.get? name).or (child.bound children name) := by
  have uniform : Matcher.Uniform next.matcher := matcher_of_closed Matcher.closed_uniform next
  rw [bound, matcher, Matcher.element_of_valid (by simpa using valid),
    uniform.mergeInnermost_eq, Scope.get?_mergeInnermost, bound]

theorem bound_element_of_not_valid {tag : String} {place : Place}
    (h : (child.verdict children).isValid = false) :
    (node (.element tag) child next).bound (.element place tag children :: rest) name =
      child.bound children name := by
  rw [bound, matcher, Matcher.element, if_pos rfl]
  simp only [verdict_matcher, h]
  rfl

/-- An element that binds something is the one that is asked for. -/
theorem exists_element_of_bound {tag value : String}
    (h : (node (.element tag) child next).bound pos name = some value) :
    ∃ place children rest, pos = .element place tag children :: rest := by
  rw [bound, matcher] at h
  rcases pos with _ | ⟨⟨place, tag', children⟩ | ⟨place, content⟩, rest⟩
  · cases h
  · by_cases same : tag' = tag
    · exact ⟨place, children, rest, by rw [same]⟩
    · rw [Matcher.element, if_neg same] at h
      cases h
  · cases h

theorem bound_wildcard_of_rejected (h : (node .wildcard child next).verdict pos = .invalid) :
    (node .wildcard child next).bound pos name = none := by
  refine bound_of_scope ?_
  by_cases last : next = nil
  · subst last
    rw [matcher]
    rfl
  · rw [verdict, matcher_wildcard last] at h
    rw [matcher_wildcard last, Matcher.scope_wildcard_of_invalid pos h]

theorem bound_wildcardExcept_of_rejected (guarded : child ≠ nil)
    (h : (node .wildcardExcept child next).verdict pos = .invalid) :
    (node .wildcardExcept child next).bound pos name = none := by
  refine bound_of_scope ?_
  by_cases last : next = nil
  · subst last
    rw [matcher_avoiding guarded, Matcher.scope_avoiding]
  · rw [verdict, matcher_avoidingUntil guarded last] at h
    rw [matcher_avoidingUntil guarded last, Matcher.scope_avoidingUntil_of_invalid pos h]

theorem bound_wildcardExcept_nil_nil : (node .wildcardExcept nil nil).bound pos name = none :=
  bound_of_scope (by rw [matcher]; rfl)

/-- A wildcard with nothing that is forbidden leaves all to the rest of its chain. -/
theorem bound_wildcardExcept_nil (more : next ≠ nil) :
    (node .wildcardExcept nil next).bound pos name = next.bound pos name := by
  cases next with
  | nil => exact absurd rfl more
  | node => rw [bound, matcher, bound]

theorem bound_scope : (node .scope child next).bound pos name = child.bound pos name := by
  rw [bound, matcher, Matcher.framed, get?_matcher]
  exact Option.or_none

theorem bound_capture_of_rejected {n : String} (h : child.verdict pos = .invalid) :
    (node (.capture n) child next).bound pos name = child.bound pos name := by
  rw [bound, matcher, Matcher.capture]
  simp only [verdict_matcher, h]
  rfl

theorem bound_many (h : child.resume? pos = some resumed) :
    (node .many child next).bound pos name = next.bound resumed name := by
  rw [resume?] at h
  rw [bound, matcher, Matcher.many]
  split at h
  · next matched =>
    cases h
    rw [if_pos matched]
    rfl
  · cases h

theorem bound_many_of_none (h : child.resume? pos = none) :
    (node .many child next).bound pos name = none := by
  rw [resume?] at h
  refine bound_of_scope ?_
  rw [matcher, Matcher.many]
  split at h
  · cases h
  · next unmatched => rw [if_neg unmatched]

/-- The rest of the chain of an alternative goes on in the scope of the branch that is taken. -/
theorem scope_firstOf (branches : List Pattern) (σ : Scope) :
    (Matcher.firstOf next.matcher s rest σ (branches.map matcher)).scope =
      match taken? s rest branches with
      | some (branch, resumed) => (next.matcher resumed (branch.matcher (s :: rest) σ).scope).scope
      | none => σ := by
  fun_induction taken? s rest branches with
  | case1 => rfl
  | case2 branch later text valid =>
    rw [List.map_cons, Matcher.firstOf_of_valid branch.matcher (by simpa using valid)]
    rfl
  | case3 branch t after left =>
    rw [List.map_cons, List.map_nil,
      Matcher.firstOf_last_of_leftover branch.matcher (by simpa using left)]
    rfl
  | case4 branch not_valid not_left =>
    have rejected : branch.verdict (s :: rest) = .invalid :=
      Verdict.eq_invalid (Verdict.isValid_eq_false not_valid) (Verdict.isLeftover_eq_false not_left)
    rw [List.map_cons, List.map_nil,
      Matcher.firstOf_last_of_invalid branch.matcher (by simpa using rejected)]
  | case5 branch b later not_valid ih =>
    have again : (branch.verdict (s :: rest)).isValid = false := Verdict.isValid_eq_false not_valid
    rw [List.map_cons, Matcher.firstOf_of_not_valid branch.matcher (by simpa using again) (by simp)]
    exact ih

theorem scope_either (σ : Scope) :
    ((node .either child next).matcher (s :: rest) σ).scope =
      match taken? s rest (child :: child.branchesAfter) with
      | some (branch, resumed) => (next.matcher resumed (branch.matcher (s :: rest) σ).scope).scope
      | none => σ := by
  rw [matcher, Matcher.either, laterBranches_eq, ← List.map_cons]
  exact scope_firstOf _ σ

theorem bound_either
    (h : taken? s rest (child :: child.branchesAfter) = some (branch, resumed)) :
    (node .either child next).bound (s :: rest) name =
      (next.bound resumed name).or (branch.bound (s :: rest) name) := by
  rw [bound, scope_either, h]
  exact get?_matcher next resumed _ name

theorem bound_either_of_none (h : taken? s rest (child :: child.branchesAfter) = none) :
    (node .either child next).bound (s :: rest) name = none :=
  bound_of_scope (by rw [scope_either, h])

/-! ### What is left behind -/

/-- **What a rejected match has bound, a part that stands has bound.** -/
theorem exists_stood_of_bound {value : String} (p : Pattern) : ∀ pos, p.verdict pos = .invalid →
    p.bound pos name = some value →
      ∃ part row, p.Stood pos part row ∧ part.bound row name = some value := by
  induction p with
  | nil =>
    rintro (_ | ⟨x, rest⟩) rejected _
    · rw [verdict_nil_nil] at rejected
      cases rejected
    · rw [verdict_nil_cons] at rejected
      cases rejected
  | node kind child next ihc ihn =>
    intro pos rejected bound
    have quiet (none : (node kind child next).bound pos name = none) :
        ∃ part row, (node kind child next).Stood pos part row ∧
          part.bound row name = some value := by
      rw [none] at bound
      cases bound
    cases kind with
    | element tag =>
      obtain ⟨place, children, rest, rfl⟩ := exists_element_of_bound bound
      rw [verdict_element] at rejected
      by_cases valid : (child.verdict children).isValid
      · rw [if_pos valid] at rejected
        rw [bound_element_of_valid valid, Option.or_eq_some_iff] at bound
        rcases bound with above | ⟨-, below⟩
        · have later : next.bound rest name = some value := by
            rw [Pattern.bound, Scope.get?_eq, above, Option.some_or]
          obtain ⟨part, row, stood, told⟩ := ihn rest rejected later
          exact ⟨part, row, .behind valid stood, told⟩
        · exact ⟨child, children, .element valid rejected, below⟩
      · rw [if_neg valid] at rejected
        rw [bound_element_of_not_valid (by simpa using valid)] at bound
        obtain ⟨part, row, stood, told⟩ := ihc children rejected bound
        exact ⟨part, row, .inside stood, told⟩
    | literal content => exact quiet (bound_of_scope (by rw [matcher, Matcher.scope_literal]))
    | search regex => exact quiet (bound_of_scope (by rw [matcher, Matcher.scope_search]))
    | wildcard => exact quiet (bound_wildcard_of_rejected rejected)
    | wildcardExcept =>
      by_cases free : child = nil
      · subst free
        by_cases last : next = nil
        · subst last
          exact quiet bound_wildcardExcept_nil_nil
        · rw [verdict_wildcardExcept_nil last] at rejected
          rw [bound_wildcardExcept_nil last] at bound
          obtain ⟨part, row, stood, told⟩ := ihn pos rejected bound
          exact ⟨part, row, .unguarded last stood, told⟩
      · exact quiet (bound_wildcardExcept_of_rejected free rejected)
    | many =>
      rw [verdict_many] at rejected
      cases goesOn : child.resume? pos with
      | none => exact quiet (bound_many_of_none goesOn)
      | some resumed =>
        rw [goesOn] at rejected
        rw [bound_many goesOn] at bound
        obtain ⟨part, row, stood, told⟩ := ihn resumed rejected bound
        exact ⟨part, row, .many goesOn stood, told⟩
    | scope =>
      rw [verdict_scope] at rejected
      rw [bound_scope] at bound
      obtain ⟨part, row, stood, told⟩ := ihc pos rejected bound
      exact ⟨part, row, .scope stood, told⟩
    | capture n =>
      rw [verdict_capture] at rejected
      rw [bound_capture_of_rejected rejected] at bound
      obtain ⟨part, row, stood, told⟩ := ihc pos rejected bound
      exact ⟨part, row, .capture stood, told⟩
    | either =>
      cases pos with
      | nil => exact quiet (bound_of_scope (by rw [matcher]; rfl))
      | cons s rest =>
        rw [verdict_either_cons] at rejected
        cases taken : taken? s rest (child :: child.branchesAfter) with
        | none => exact quiet (bound_either_of_none taken)
        | some took =>
          obtain ⟨branch, resumed⟩ := took
          rw [taken] at rejected
          rw [bound_either taken, Option.or_eq_some_iff] at bound
          rcases bound with later | ⟨-, here⟩
          · obtain ⟨part, row, stood, told⟩ := ihn resumed rejected later
            exact ⟨part, row, .behindBranch taken stood, told⟩
          · exact ⟨branch, s :: rest, .branch taken rejected, here⟩
    | option => exact quiet (bound_of_scope (by rw [matcher]; rfl))

/-- **What a part that stands has bound, a rejected match has bound**, unless the name is captured
in an alternative behind which a frame can be pushed. -/
theorem Stood.bound_ne_none (h : p.Stood pos part row) (shown : name ∉ p.buried)
    (told : part.bound row name ≠ none) : p.bound pos name ≠ none := by
  -- a name that is not buried in a node is not buried in its child nor in the rest of its chain
  have below {kind : Kind} {child next : Pattern} (kept : kind.forgets = false)
      (free : name ∉ (node kind child next).buried) : name ∉ child.buried := fun mem =>
    free (by rw [buried, kept]; exact List.mem_append_left _ (List.mem_append_left _ mem))
  have later {kind : Kind} {child next : Pattern} (free : name ∉ (node kind child next).buried) :
      name ∉ next.buried := mt (@buried_subset_node kind child next name) free
  induction h with
  | element valid _ =>
    rw [bound_element_of_valid valid]
    exact fun none => told (Option.or_eq_none_iff.mp none).2
  | inside stood ih =>
    rw [bound_element_of_not_valid (by rw [stood.rejected]; rfl)]
    exact ih (below rfl shown) told
  | @behind tag child next part place children rest row valid _ ih =>
    have onTop : (next.matcher rest .fresh).scope.OnTop name :=
      next.bindsOnTop_matcher (later shown) rest
    rw [bound_element_of_valid valid, onTop]
    exact fun none => ih (later shown) told (Option.or_eq_none_iff.mp none).1
  | unguarded more _ ih =>
    rw [bound_wildcardExcept_nil more]
    exact ih (later shown) told
  | many goesOn _ ih =>
    rw [bound_many goesOn]
    exact ih (later shown) told
  | scope _ ih =>
    rw [bound_scope]
    exact ih (below rfl shown) told
  | capture stood ih =>
    rw [bound_capture_of_rejected stood.rejected]
    exact ih (below rfl shown) told
  | branch taken _ =>
    rw [bound_either taken]
    exact fun none => told (Option.or_eq_none_iff.mp none).2
  | behindBranch taken _ ih =>
    rw [bound_either taken]
    exact fun none => ih (later shown) told (Option.or_eq_none_iff.mp none).1

/-- **A rejected run leaves behind what was bound by the parts that stand.** Each text that is
visible in the scope of a rejected run was bound to its name by the children of an element or the
branch of an alternative that had matched before the rest of the chain was rejected. Conversely,
what such a part has bound is visible, unless it is captured in an alternative behind which a frame
can be pushed. So where no part that has bound anything stands, all frames that are returned are
empty, and there is only the one from the start, if the pattern pushes none. -/
theorem rejected_keeps_what_stood (p : Pattern) (d : Document) (h : (p.run d).verdict = .invalid) :
    (∀ name value, (p.run d).scope.get? name = some value →
        ∃ part row, p.Stood d.outline part row ∧ part.bound row name = some value) ∧
      (∀ name, name ∉ p.buried → ∀ part row, p.Stood d.outline part row →
        part.bound row name ≠ none → (p.run d).scope.get? name ≠ none) ∧
      ((∀ part row, p.Stood d.outline part row → ∀ name, part.bound row name = none) →
        (∀ f ∈ (p.run d).scope.frames, f = .empty) ∧
          (.push ∉ p.effects → (p.run d).scope = .fresh)) := by
  have left {name value : String} (bound : (p.run d).scope.get? name = some value) :
      ∃ part row, p.Stood d.outline part row ∧ part.bound row name = some value :=
    p.exists_stood_of_bound d.outline h bound
  refine ⟨fun _ _ => left, fun name shown part row stood => stood.bound_ne_none shown,
    fun nothing => ?_⟩
  have empty : ∀ f ∈ (p.run d).scope.frames, f = .empty := by
    refine Scope.eq_empty_of_get?_eq_none fun name => Option.eq_none_iff_forall_not_mem.mpr ?_
    intro value bound
    obtain ⟨part, row, stood, told⟩ := left bound
    rw [nothing part row stood] at told
    cases told
  refine ⟨empty, fun still => ?_⟩
  have single : (p.run d).scope.outer = [] := outer_of_not_push still d.outline
  have first := empty _ List.mem_cons_self
  generalize (p.run d).scope = s at single first
  obtain ⟨innermost, outer⟩ := s
  cases single
  cases first
  rfl

/-- The first branch is given up with what it bound, for an italic text is missed in it. The second
one is taken and stands, with what it bound, when a bold text is missed behind it. -/
theorem rejected_keeps_what_stood_branch :
    ∃ p d, Template.compile ("\x7beither\x7d<p>\x7b$x\x7dhi\x7b/$x\x7d</p><i></i>" ++
        "\x7bor\x7d<p>\x7b$y\x7dhi\x7b/$y\x7d</p>\x7b/either\x7d<b></b>") = .ok p ∧
      Document.read "<p>hi</p>" .lenient = .ok d ∧ (p.run d).verdict = .invalid ∧
      (p.run d).trace.length = 2 ∧ "y" ∉ p.buried ∧
      ∃ part row, p.Stood d.outline part row ∧ part.bound row "y" = some "hi" ∧
        (p.run d).scope.get? "y" ≠ none ∧ (p.run d).scope.get? "x" = none := by
  let p : Pattern := node (.element "html") (node (.element "body") (node .either
    (node (.element "p") (node (.capture "x") (node (.literal "hi") nil nil) nil)
      (node (.element "i") nil (node .option nil
        (node (.element "p") (node (.capture "y") (node (.literal "hi") nil nil) nil) nil))))
    (node (.element "b") nil nil)) nil) nil
  let d : Document := ⟨[.element 0 "html" [] [.element 1 "body" []
    [.element 2 "p" [] [.text 3 "hi"]]]]⟩
  have rejected : (p.run d).verdict = .invalid := by
    unfold p
    cbv
  have left : (p.run d).scope.get? "y" = some "hi" := by
    unfold p
    cbv
  have shown : "y" ∉ p.buried := by
    unfold p
    decide
  obtain ⟨stands, stays, -⟩ := rejected_keeps_what_stood p d rejected
  obtain ⟨part, row, stood, told⟩ := stands "y" "hi" left
  refine ⟨p, d, by cbv, by cbv, rejected, ?_, shown, part, row, stood, told,
    stays "y" shown part row stood (by simp [told]), ?_⟩
  · unfold p
    cbv
  · unfold p
    cbv

/-- What was bound in a paragraph is visible after a bold text was missed behind it. -/
theorem rejected_binds :
    ∃ p d, Template.compile "<p>\x7b$x\x7dhi\x7b/$x\x7d</p><b></b>" = .ok p ∧
      Document.read "<p>hi</p>" .lenient = .ok d ∧ (p.run d).verdict = .invalid ∧
      (p.run d).scope.depth = 1 ∧ (p.run d).scope.get? "x" = some "hi" :=
  ⟨_, _, by cbv, by cbv, by cbv, by cbv, by cbv⟩

end Pattern

end Stencil
