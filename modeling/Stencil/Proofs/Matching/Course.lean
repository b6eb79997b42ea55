import Stencil.Proofs.Matching.Captures

/-!
# Matching — the course of a match

The chains that are matched in the course of a match, each with its position, in order
(`Pattern.evaluations`): those in branches that fail and in forbidden patterns are among them. The
nodes that a match tells of are those at which one of these chains is empty
(`Pattern.ranOut_matcher`).
-/

namespace Stencil

namespace Position

/-- The positions that are tried one after the other: each sibling up to the first one at which a
test is passed, and the end of the row if there is none. -/
def tried (test : Position → Bool) : Position → List Position
  | [] => [[]]
  | s :: rest => (s :: rest) :: if test (s :: rest) then [] else tried test rest

end Position

namespace Pattern

/-- The positions at which the rounds of a repetition start. -/
def starts (child : Pattern) (pos : Position) : List Position :=
  pos ::
    match child.verdict pos with
    | .leftover s rest =>
      if Site.sizes (s :: rest) < Site.sizes pos then starts child (s :: rest) else []
    | _ => []
termination_by Site.sizes pos

mutual

/-- The chains that are matched in the course of a match of a chain, each with its position, in
order. -/
def evaluations : Pattern → Position → List (Pattern × Position)
  | nil, pos => [(nil, pos)]
  | node kind child next, pos =>
    (node kind child next, pos) ::
      match kind with
      | .element tag =>
        match pos with
        | .element _ name children :: rest =>
          if name = tag then
            child.evaluations children ++
              if (child.verdict children).isValid then next.evaluations rest else []
          else []
        | _ => []
      | .literal _ | .search _ | .option => []
      | .scope | .capture _ => child.evaluations pos
      | .wildcard =>
        if next = nil then []
        else (pos.tried fun x => !(next.verdict x).isInvalid).flatMap next.evaluations
      | .wildcardExcept =>
        if child = nil then if next = nil then [] else next.evaluations pos
        else
          (pos.tried fun x => (next.verdict x).isValid || !(child.verdict x).isInvalid).flatMap
            fun x =>
              -- without a rest of the chain, only the end of the row is tried
              (if next = nil ∧ x ≠ [] then [] else next.evaluations x) ++
                if x = [] ∨ (next.verdict x).isValid then [] else child.evaluations x
      | .many =>
        (child.starts pos).flatMap child.evaluations ++
          (child.resume? pos).elim [] next.evaluations
      | .either =>
        match pos with
        | [] => []
        | s :: rest =>
          child.evaluations (s :: rest) ++
            (if (child.verdict (s :: rest)).isValid then []
              else child.laterEvaluations (s :: rest)) ++
            (taken? s rest (child :: child.branchesAfter)).elim [] (next.evaluations ·.2)

/-- Those in the branches of a chain after the first one, up to the first branch that is valid. -/
def laterEvaluations : Pattern → Position → List (Pattern × Position)
  | nil, _ => []
  | node kind _ next, pos =>
    match kind with
    | .option =>
      next.evaluations pos ++
        if (next.verdict pos).isValid then [] else next.laterEvaluations pos
    | _ => next.laterEvaluations pos

end

/-- The nodes at which a chain was empty, in order. -/
def exhausted (evaluations : List (Pattern × Position)) : List Site :=
  evaluations.filterMap fun
    | (nil, s :: _) => some s
    | _ => none

theorem exhausted_append (before after : List (Pattern × Position)) :
    exhausted (before ++ after) = exhausted before ++ exhausted after := List.filterMap_append

@[simp] theorem exhausted_node (kind : Kind) (child next : Pattern) (pos : Position)
    (later : List (Pattern × Position)) :
    exhausted ((node kind child next, pos) :: later) = exhausted later := rfl

theorem taken?_of_valid {branch : Pattern} {s : Site} {rest : List Site} {later : List Pattern}
    (valid : (branch.verdict (s :: rest)).isValid) :
    taken? s rest (branch :: later) = some (branch, rest) := by
  obtain ⟨text, here⟩ := (Verdict.isValid_iff _).mp valid
  unfold taken?
  rw [here]

theorem taken?_of_not_valid {branch b : Pattern} {s : Site} {rest : List Site}
    {later : List Pattern} (other : (branch.verdict (s :: rest)).isValid = false) :
    taken? s rest (branch :: b :: later) = taken? s rest (b :: later) := by
  conv_lhs => unfold taken?
  cases here : branch.verdict (s :: rest) with
  | valid text => simp [here] at other
  | leftover t after => rfl
  | invalid => rfl

end Pattern

/-! ### What a match tells of -/

namespace Attempt

theorem ranOut_after (trace : List Happening) (a : Attempt) :
    (a.after trace).ranOut = trace.filterMap (·.ranOut?) ++ a.ranOut := List.filterMap_append

@[simp] theorem ranOut_quiet (v : Verdict) (s : Scope) : (quiet v s).ranOut = [] := rfl

end Attempt

namespace Matcher

open Pattern (exhausted exhausted_append taken?)

/-- The nodes that a matcher tells of are those at which a chain was empty in the course of the
match. -/
def Follows (m : Matcher) (course : Position → List (Pattern × Position)) : Prop :=
  ∀ pos s, (m pos s).ranOut = exhausted (course pos)

variable {child next b : Pattern} {s : Scope}

theorem follows_ending : Follows ending fun pos => [(.nil, pos)] := by
  rintro (_ | ⟨x, rest⟩) s
  · rfl
  · rfl

theorem ranOut_atEnd (next : Matcher) (s : Scope) : (atEnd next s).ranOut = (next [] s).ranOut := by
  rw [atEnd]
  split
  · rfl
  · rfl

theorem ranOut_element {tag : String} (hc : Follows child.matcher child.evaluations)
    (hn : Follows next.matcher next.evaluations) (place : Place) (name : String)
    (children rest : List Site) :
    (element tag child.matcher next.matcher (.element place name children :: rest) s).ranOut =
      exhausted (if name = tag then
        child.evaluations children ++
          if (child.verdict children).isValid then next.evaluations rest else []
      else []) := by
  by_cases same : name = tag
  · subst same
    rw [if_pos rfl]
    by_cases valid : (child.verdict children).isValid
    · rw [element_of_valid (by simpa using valid), if_pos valid, exhausted_append,
        ← hc children s, ← hn rest (child.matcher children s).scope]
      exact List.filterMap_append
    · rw [element, if_pos rfl, if_neg valid, List.append_nil]
      simpa only [child.verdict_matcher, if_neg valid] using hc children s
  · rw [element, if_neg same, if_neg same]
    rfl

theorem ranOut_capture (name : String) (child : Matcher) (pos : Position) (s : Scope) :
    (capture name child pos s).ranOut = (child pos s).ranOut := by
  rw [capture]
  dsimp only
  split
  · rw [Attempt.ranOut, List.filterMap_append]
    exact List.append_nil _
  · rfl

/-! ### Wildcards -/

theorem ranOut_wildcard (hn : Follows next.matcher next.evaluations) (pos : Position) :
    (wildcard next.matcher pos s).ranOut =
      exhausted ((pos.tried fun x => !(next.verdict x).isInvalid).flatMap next.evaluations) := by
  induction pos with
  | nil =>
    rw [wildcard, ranOut_atEnd, hn, Position.tried, List.flatMap_singleton]
  | cons x rest ih =>
    rw [wildcard, Position.tried, List.flatMap_cons, exhausted_append, ← hn (x :: rest) s]
    by_cases rejected : (next.verdict (x :: rest)).isInvalid
    · rw [next.verdict_matcher, if_pos rejected, Attempt.ranOut_after, ih]
      simp only [rejected, Bool.not_true, Bool.false_eq_true, if_false]
      rfl
    · simp [rejected, exhausted]

theorem ranOut_avoiding (hf : Follows child.matcher child.evaluations) (pos : Position) :
    (avoiding child.matcher pos s).ranOut =
      exhausted ((pos.tried fun x =>
        (Pattern.nil.verdict x).isValid || !(child.verdict x).isInvalid).flatMap fun x =>
          (if x ≠ [] then [] else Pattern.nil.evaluations x) ++
            if x = [] ∨ (Pattern.nil.verdict x).isValid then [] else child.evaluations x) := by
  induction pos with
  | nil =>
    simp only [Position.tried, List.flatMap_singleton, Pattern.evaluations]
    rfl
  | cons x rest ih =>
    simp only [avoiding, Position.tried, List.flatMap_cons, exhausted_append,
      child.verdict_matcher, reduceCtorEq, if_false, Pattern.verdict_nil_cons,
      Verdict.isValid_leftover, Bool.false_or, or_self, ne_eq, not_false_eq_true, if_true,
      Bool.false_eq_true, List.nil_append]
    rw [← hf (x :: rest) s]
    by_cases rejected : (child.verdict (x :: rest)).isInvalid
    · simp only [rejected, Bool.not_true, Bool.false_eq_true, if_true, if_false]
      rw [Attempt.ranOut_after, ih]
      rfl
    · simp only [rejected, Bool.not_false, if_true, if_false, Bool.false_eq_true]
      exact (List.append_nil _).symm

theorem ranOut_avoidingUntil (hf : Follows child.matcher child.evaluations)
    (hn : Follows next.matcher next.evaluations) (pos : Position) :
    (avoidingUntil child.matcher next.matcher pos s).ranOut =
      exhausted ((pos.tried fun x =>
        (next.verdict x).isValid || !(child.verdict x).isInvalid).flatMap fun x =>
          next.evaluations x ++
            if x = [] ∨ (next.verdict x).isValid then [] else child.evaluations x) := by
  induction pos with
  | nil => simp [avoidingUntil, ranOut_atEnd, hn [] s, Position.tried]
  | cons x rest ih =>
    simp only [avoidingUntil, Position.tried, List.flatMap_cons, exhausted_append,
      next.verdict_matcher, child.verdict_matcher, reduceCtorEq, false_or]
    by_cases valid : (next.verdict (x :: rest)).isValid
    · simp [valid, hn (x :: rest) s, exhausted]
    · by_cases rejected : (child.verdict (x :: rest)).isInvalid
      · simp only [valid, rejected, Bool.false_eq_true, if_true, if_false, Bool.not_true,
          Bool.or_false]
        rw [Attempt.ranOut_after, ih, List.filterMap_append, ← hn (x :: rest) s,
          ← hf (x :: rest) s]
        rfl
      · simp only [valid, rejected, Bool.false_eq_true, if_true, if_false, Bool.not_false,
          Bool.or_true]
        rw [← hn (x :: rest) s, ← hf (x :: rest) s, Attempt.ranOut, List.filterMap_append]
        exact (List.append_nil _).symm

/-! ### Repetitions and alternatives -/

theorem ranOut_rounds (hc : Follows child.matcher child.evaluations) (matched : Bool)
    (pos : Position) (s : Scope) :
    (rounds child.matcher matched pos s).trace.filterMap (·.ranOut?) =
      exhausted ((child.starts pos).flatMap child.evaluations) := by
  have first : ∀ pos, exhausted (child.evaluations pos) =
      (child.matcher pos s.push).trace.filterMap (·.ranOut?) := fun pos => (hc pos s.push).symm
  -- how a round ends does not depend on the frame that is pushed for it
  have same : ∀ pos, child.verdict pos = (child.matcher pos s.push).verdict := fun pos =>
    (child.verdict_matcher pos s.push).symm
  fun_induction rounds child.matcher matched pos s with
  | case1 matched pos round x rest left shorter later ih =>
    rw [Pattern.starts, List.flatMap_cons, exhausted_append, first, List.filterMap_append, ih,
      (same pos).trans left]
    dsimp only
    rw [if_pos shorter]
  | case2 matched pos round x rest left longer =>
    rw [Pattern.starts, (same pos).trans left]
    dsimp only
    rw [if_neg longer, List.flatMap_singleton, first]
  | case3 matched pos round text valid =>
    rw [Pattern.starts, (same pos).trans valid, List.flatMap_singleton, first]
  | case4 matched pos round rejected =>
    rw [Pattern.starts, (same pos).trans rejected, List.flatMap_singleton, first]

theorem ranOut_many (hc : Follows child.matcher child.evaluations)
    (hn : Follows next.matcher next.evaluations) (pos : Position) :
    (many child.matcher next.matcher pos .fresh).ranOut =
      exhausted ((child.starts pos).flatMap child.evaluations ++
        (child.resume? pos).elim [] next.evaluations) := by
  rw [many, exhausted_append, ← ranOut_rounds hc false pos .fresh, Pattern.resume?]
  by_cases matched : (rounds child.matcher false pos .fresh).matched
  · simp only [matched, if_true, Option.elim_some]
    rw [Attempt.ranOut_after, hn]
  · simp only [matched, if_false, Option.elim_none, Bool.false_eq_true]
    exact (List.append_nil _).symm

theorem ranOut_firstOf_of_valid (hn : Follows next.matcher next.evaluations)
    (hb : Follows b.matcher b.evaluations) {x : Site} {rest : List Site}
    (valid : (b.verdict (x :: rest)).isValid) (later : List Matcher) :
    (firstOf next.matcher x rest s (b.matcher :: later)).ranOut =
      exhausted (b.evaluations (x :: rest)) ++ exhausted (next.evaluations rest) := by
  obtain ⟨text, ends⟩ := (Verdict.isValid_iff _).mp valid
  rw [firstOf_of_valid b.matcher (by simpa using ends), Attempt.ranOut_after, hn,
    ← hb (x :: rest) s]
  rfl

/-- The branches of an alternative are tried one after the other; `b` is the one that is next, and
the others are those of a chain. -/
theorem ranOut_firstOf (hn : Follows next.matcher next.evaluations) (x : Site) (rest : List Site)
    (chain : Pattern) (hb : Follows b.matcher b.evaluations)
    (later : ∀ p ∈ chain.branchesAfter, Follows p.matcher p.evaluations) :
    (firstOf next.matcher x rest s (b.matcher :: chain.laterBranches)).ranOut =
      exhausted (b.evaluations (x :: rest) ++
        (if (b.verdict (x :: rest)).isValid then [] else chain.laterEvaluations (x :: rest)) ++
        (taken? x rest (b :: chain.branchesAfter)).elim [] (next.evaluations ·.2)) := by
  induction chain generalizing b with
  | nil =>
    rw [Pattern.laterBranches, Pattern.branchesAfter, Pattern.laterEvaluations, ite_self,
      List.append_nil, exhausted_append]
    cases ends : b.verdict (x :: rest) with
    | valid text =>
      have valid : (b.verdict (x :: rest)).isValid := by simp [ends]
      rw [ranOut_firstOf_of_valid hn hb valid, Pattern.taken?_of_valid valid, Option.elim_some]
    | leftover t after =>
      rw [firstOf_last_of_leftover b.matcher (by simpa using ends), Attempt.ranOut_after, hn,
        ← hb (x :: rest) s]
      unfold taken?
      rw [ends]
      rfl
    | invalid =>
      rw [firstOf_last_of_invalid b.matcher (by simpa using ends), ← hb (x :: rest) s]
      unfold taken?
      rw [ends]
      exact (List.append_nil _).symm
  | node kind _ first _ ih =>
    cases kind with
    | option =>
      by_cases valid : (b.verdict (x :: rest)).isValid
      · rw [Pattern.laterBranches, ranOut_firstOf_of_valid hn hb valid,
          Pattern.taken?_of_valid valid, if_pos valid, List.append_nil, exhausted_append,
          Option.elim_some]
      · have ih := ih (later first List.mem_cons_self) fun p mem =>
          later p (List.mem_cons_of_mem _ mem)
        -- the branch that is next now starts behind this end of a branch
        rw [if_neg valid, Pattern.laterBranches, Pattern.branchesAfter, Pattern.laterEvaluations]
        replace valid := Bool.eq_false_of_not_eq_true valid
        rw [firstOf_of_not_valid b.matcher (by simpa using valid) (by simp), Attempt.ranOut_after,
          ih, Pattern.taken?_of_not_valid valid, List.append_assoc (b.evaluations _),
          exhausted_append (b.evaluations _), ← hb (x :: rest) s]
        rfl
    | _ =>
      simpa only [Pattern.laterBranches, Pattern.branchesAfter, Pattern.laterEvaluations]
        using ih hb later

end Matcher

namespace Pattern

theorem follows_and_branches (p : Pattern) :
    Matcher.Follows p.matcher p.evaluations ∧
      ∀ b ∈ p.branchesAfter, Matcher.Follows b.matcher b.evaluations := by
  induction p with
  | nil =>
    refine ⟨fun pos s => ?_, by simp [branchesAfter]⟩
    rw [matcher, evaluations]
    exact Matcher.follows_ending pos s
  | node kind child next ihc ihn =>
    constructor
    · intro pos s
      cases kind with
      | element tag =>
        rw [matcher]
        rcases pos with _ | ⟨⟨place, name, children⟩ | ⟨place, content⟩, rest⟩
        · rw [evaluations, exhausted_node]
          · rfl
          · rintro _ _ _ _ ⟨⟩
        · rw [evaluations, exhausted_node]
          exact Matcher.ranOut_element ihc.1 ihn.1 place name children rest
        · rw [evaluations, exhausted_node]
          · rfl
          · rintro _ _ _ _ ⟨⟩
      | literal content =>
        rw [matcher, evaluations]
        rcases pos with _ | ⟨_ | _, rest⟩
        · rfl
        · rfl
        · rfl
      | search regex =>
        rw [matcher, evaluations, Matcher.search]
        split
        · rfl
        · rfl
      | wildcard =>
        rw [evaluations, exhausted_node]
        by_cases last : next = nil
        · rw [last, matcher]
          rfl
        · rw [matcher_wildcard last, if_neg last]
          exact Matcher.ranOut_wildcard ihn.1 pos
      | wildcardExcept =>
        rw [evaluations, exhausted_node]
        by_cases unguarded : child = nil
        · by_cases last : next = nil
          · rw [unguarded, last, matcher]
            rfl
          · rw [unguarded, matcher_unguarded last, if_pos rfl, if_neg last]
            exact ihn.1 pos s
        · rw [if_neg unguarded]
          by_cases last : next = nil
          · rw [last, matcher_avoiding unguarded, Matcher.ranOut_avoiding ihc.1]
            simp only [true_and]
          · rw [matcher_avoidingUntil unguarded last, Matcher.ranOut_avoidingUntil ihc.1 ihn.1]
            simp only [last, false_and, if_false]
      | many =>
        -- where the rounds come to does not depend on the scope
        rw [matcher_onto, Attempt.ranOut_onto, matcher_many, evaluations, exhausted_node]
        exact Matcher.ranOut_many ihc.1 ihn.1 pos
      | scope =>
        rw [matcher, evaluations]
        exact ihc.1 pos s.push
      | capture name =>
        rw [matcher, Matcher.ranOut_capture, evaluations]
        exact ihc.1 pos s
      | either =>
        rcases pos with _ | ⟨x, rest⟩
        · rw [matcher, evaluations]
          rfl
        · rw [matcher, evaluations, exhausted_node]
          exact Matcher.ranOut_firstOf ihn.1 x rest child ihc.1 ihc.2
      | option => rw [matcher, evaluations]; rfl
    · intro b mem
      cases kind with
      | option =>
        rw [branchesAfter] at mem
        rcases List.mem_cons.mp mem with rfl | mem
        · exact ihn.1
        · exact ihn.2 b mem
      | _ => exact ihn.2 b (by simpa only [branchesAfter] using mem)

/-- **What a match tells of**: the nodes at which one of the chains was empty that are matched in its
course. -/
theorem ranOut_matcher (p : Pattern) (pos : Position) (s : Scope) :
    (p.matcher pos s).ranOut = exhausted (p.evaluations pos) := p.follows_and_branches.1 pos s

end Pattern

end Stencil
