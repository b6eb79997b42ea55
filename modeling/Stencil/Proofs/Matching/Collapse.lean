import Stencil.Proofs.Matching.Verdict

/-!
# Matching — an operator in itself

A repetition of a repetition comes to what a single one comes to, and a wildcard behind a wildcard
adds nothing (`Pattern.nested_operators_collapse`). The position that a repetition comes to is
settled: repeating from there, the repetition stays there, or is rejected
(`Pattern.resume?_settled`). What a wildcard comes to, a wildcard in front of it takes as it is
(`Matcher.wildcard_wildcard`).
-/

namespace Stencil

namespace Matcher

variable {child next : Matcher} {pos : Position} {s : Scope}

/-- The rounds that do not come to the end of the siblings stop where they started, or with fewer
nodes left; and rounds from where they stopped do not leave this position. -/
theorem rounds_from_tail (child : Matcher) (matched : Bool) (pos : Position) (s : Scope) :
    let all := rounds child matched pos s
    let again := rounds child false all.tail s
    all.ended = false →
      (all.tail = pos ∨ Site.sizes all.tail < Site.sizes pos) ∧
        again.ended = false ∧ again.tail = all.tail := by
  fun_induction rounds child matched pos s with
  | case1 matched pos round x rest left shorter later ih =>
    intro all again unended
    obtain ⟨reached, settled⟩ := ih unended
    refine ⟨.inr ?_, settled⟩
    rcases reached with same | fewer
    · exact lt_of_eq_of_lt (congrArg Site.sizes same) shorter
    · exact fewer.trans shorter
  | case2 matched pos round x rest left longer =>
    intro all again _
    have stay : again = ⟨true, false, pos, (child pos s.push).trace⟩ :=
      rounds_of_not_shorter left longer
    exact ⟨.inl rfl, by rw [stay], by rw [stay]⟩
  | case3 matched pos round text valid =>
    intro all again unended
    cases unended
  | case4 matched pos round rejected =>
    intro all again _
    have stay : again = ⟨false, false, pos, (child pos s.push).trace⟩ := rounds_of_invalid rejected
    exact ⟨.inl rfl, by rw [stay], by rw [stay]⟩

/-- **What a wildcard comes to, a wildcard in front of it takes as it is.** -/
theorem wildcard_wildcard (next : Matcher) (pos : Position) (s : Scope) :
    (wildcard (wildcard next) pos s).verdict = (wildcard next pos s).verdict ∧
      (wildcard (wildcard next) pos s).scope = (wildcard next pos s).scope := by
  induction pos with
  | nil =>
    simp only [wildcard, atEnd]
    by_cases valid : (next [] s).verdict.isValid
    · simp [valid]
    · simp [valid]
  | cons x rest ih =>
    by_cases rejected : (next (x :: rest) s).verdict.isInvalid
    · have moved : wildcard next (x :: rest) s =
          (wildcard next rest s).after (next (x :: rest) s).trace := by
        rw [wildcard, if_pos rejected]
      rw [wildcard, moved, Attempt.after_verdict, Attempt.after_scope]
      -- the wildcard behind has passed over this sibling, and may be rejected further on
      split
      · rw [Attempt.after_verdict, Attempt.after_scope]
        exact ih
      · exact ⟨rfl, rfl⟩
    · have here : wildcard next (x :: rest) s = next (x :: rest) s := by
        rw [wildcard, if_neg rejected]
      rw [wildcard, here, if_neg rejected]
      exact ⟨rfl, rfl⟩

/-- A wildcard in front of what is valid everywhere is valid everywhere. -/
theorem wildcard_anywhere (pos : Position) (s : Scope) :
    wildcard anywhere pos s = .quiet (.valid none) s := by
  cases pos with
  | nil => rfl
  | cons x rest => rfl

end Matcher

namespace Pattern

variable {x y : Pattern} {pos : Position}

/-! ### Repetitions of repetitions -/

/-- The place that a repetition comes to is the one it started from, or has fewer nodes left; and
the repetition cannot leave it. -/
theorem resume?_settled {t : Site} {rest : List Site} (h : x.resume? pos = some (t :: rest)) :
    (t :: rest = pos ∨ Site.sizes (t :: rest) < Site.sizes pos) ∧
      ∀ at_ ∈ x.resume? (t :: rest), at_ = t :: rest := by
  simp only [resume?, Option.ite_none_right_eq_some, Option.some.injEq] at h
  obtain ⟨-, stopped⟩ := h
  have unended : (x.matcher.rounds false pos .fresh).ended = false := by
    by_contra ended
    rw [if_pos (by simpa using ended)] at stopped
    cases stopped
  rw [unended, if_neg Bool.false_ne_true] at stopped
  obtain ⟨reached, again, stay⟩ := x.matcher.rounds_from_tail false pos .fresh unended
  rw [stopped] at reached again stay
  refine ⟨reached, fun at_ found => ?_⟩
  simp only [resume?, Option.mem_def, Option.ite_none_right_eq_some, Option.some.injEq, again,
    stay] at found
  exact found.2.symm

theorem verdict_many_nil_of_none (h : x.resume? pos = none) :
    (node .many x nil).verdict pos = .invalid := by
  rw [verdict_many, h]
  rfl

theorem verdict_many_nil_of_some {t : Site} {rest : List Site}
    (h : x.resume? pos = some (t :: rest)) :
    (node .many x nil).verdict pos = .leftover t rest := by
  rw [verdict_many, h]
  exact verdict_nil_cons t rest

/-- **A repetition of a repetition goes on where a single one does.** -/
theorem resume?_many (x : Pattern) (pos : Position) :
    (node .many x nil).resume? pos = x.resume? pos := by
  have first : ∀ at_ : Position, ((node .many x nil).matcher at_ Scope.fresh.push).verdict =
      (node .many x nil).verdict at_ := fun at_ => verdict_matcher _ at_ _
  rcases found : x.resume? pos with _ | _ | ⟨t, rest⟩
  · rw [resume?, Matcher.rounds_of_invalid ((first pos).trans (verdict_many_nil_of_none found))]
    rfl
  · have valid : (node .many x nil).verdict pos = .valid none := by
      rw [verdict_many, found]
      exact verdict_nil_nil
    rw [resume?, Matcher.rounds_of_valid ((first pos).trans valid)]
    rfl
  · have left := (first pos).trans (verdict_many_nil_of_some found)
    obtain ⟨rfl | fewer, settled⟩ := resume?_settled found
    · rw [resume?, Matcher.rounds_of_not_shorter left (lt_irrefl _)]
      rfl
    · rw [resume?, Matcher.rounds_of_shorter left fewer]
      -- the second round of the repetition outside is rejected, or leaves the same nodes over
      rcases second : x.resume? (t :: rest) with _ | at_
      · rw [Matcher.rounds_of_invalid ((first _).trans (verdict_many_nil_of_none second))]
        rfl
      · obtain rfl := settled at_ second
        rw [Matcher.rounds_of_not_shorter ((first _).trans (verdict_many_nil_of_some second))
          (lt_irrefl _)]
        rfl

/-- A repetition comes to the verdict and the scope of the rest of its chain where it goes on. -/
theorem answer_many (x y : Pattern) (pos : Position) (s : Scope) :
    let answer := (node .many x y).matcher pos s
    let found := (x.resume? pos).elim (.quiet .invalid s) (y.matcher · s)
    answer.verdict = found.verdict ∧ answer.scope = found.scope := by
  have uniform :=
    Matcher.rounds_onto (matcher_of_closed Matcher.closed_uniform x) false pos .fresh s
  rw [Scope.fresh_onto] at uniform
  simp only [matcher_many, Matcher.many, uniform, Matcher.Rounds.onto, resume?]
  by_cases matched : (x.matcher.rounds false pos .fresh).matched
  · rw [if_pos matched, if_pos matched]
    exact ⟨rfl, rfl⟩
  · rw [if_neg matched, if_neg matched]
    exact ⟨rfl, rfl⟩

/-! ### Collapsing -/

/-- **An operator in itself is the operator.** A repetition whose only child is a repetition gives
the verdict and the scope of a single one, and so does a wildcard with a wildcard behind it,
wherever they are matched, in every scope and whatever follows them. -/
theorem nested_operators_collapse (x y : Pattern) (pos : Position) (s : Scope) :
    (let nested := (node .many (node .many x nil) y).matcher pos s
      let single := (node .many x y).matcher pos s
      nested.verdict = single.verdict ∧ nested.scope = single.scope) ∧
    ∀ c c' c'' : Pattern,
      let nested := (node .wildcard c (node .wildcard c' y)).matcher pos s
      let single := (node .wildcard c'' y).matcher pos s
      nested.verdict = single.verdict ∧ nested.scope = single.scope := by
  refine ⟨?_, fun c c' c'' => ?_⟩
  · obtain ⟨verdict_nested, scope_nested⟩ := answer_many (node .many x nil) y pos s
    obtain ⟨verdict_single, scope_single⟩ := answer_many x y pos s
    rw [resume?_many] at verdict_nested scope_nested
    exact ⟨verdict_nested.trans verdict_single.symm, scope_nested.trans scope_single.symm⟩
  · have outer : (node .wildcard c (node .wildcard c' y)).matcher =
        .wildcard (node .wildcard c' y).matcher := matcher_wildcard (by simp)
    rw [outer]
    by_cases last : y = nil
    · have anywhere : ∀ c, (node .wildcard c y).matcher = .anywhere := by
        intro c
        rw [last, matcher]
      rw [anywhere, anywhere, Matcher.wildcard_anywhere]
      exact ⟨rfl, rfl⟩
    · rw [matcher_wildcard last, matcher_wildcard last]
      exact y.matcher.wildcard_wildcard pos s

end Pattern

end Stencil
