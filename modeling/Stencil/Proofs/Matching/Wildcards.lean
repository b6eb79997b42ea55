import Mathlib.Order.Bounds.Basic
import Stencil.Proofs.Matching.Progress
import Stencil.Proofs.Matching.Rejected

/-!
# Matching — where a wildcard stops

A wildcard comes to what the rest of its chain comes to at the first sibling that this does not
reject (`Pattern.wildcard_stops_at_first`). A wildcard with a forbidden pattern comes to what the
rest of its chain comes to at the first place where this is valid, if the forbidden pattern rejects
every sibling in front (`Pattern.guarded_wildcard_stops_at_first`). What was tried in vain leaves
nothing in the scope.
-/

namespace Stencil

namespace Matcher

/-- The siblings of a row, by their indices, that a matcher does not reject. -/
def accepted (m : Matcher) (pos : Position) (s : Scope) : Set ℕ :=
  {k | k < pos.length ∧ (m (pos.drop k) s).verdict.isInvalid = false}

/-- The siblings of a row, by their indices, at which a matcher is valid, and the length of the row
if it is valid behind the last one. -/
def fulfilled (m : Matcher) (pos : Position) (s : Scope) : Set ℕ :=
  {k | k ≤ pos.length ∧ (m (pos.drop k) s).verdict.isValid}

variable {next forbidden : Matcher} {pos : Position} {s : Scope} {k : ℕ}

/-! ### Siblings that are passed over -/

/-- A wildcard passes over the siblings that the rest of the chain rejects. -/
theorem wildcard_of_rejected : ∀ {k : ℕ} {pos : Position}, k ≤ pos.length →
    (∀ j < k, (next (pos.drop j) s).verdict.isInvalid) →
      ∃ trace, wildcard next pos s = (wildcard next (pos.drop k) s).after trace := by
  intro k
  induction k with
  | zero => exact fun _ _ => ⟨[], rfl⟩
  | succ k ih =>
    intro pos within rejected
    cases pos with
    | nil => cases within
    | cons x rest =>
      obtain ⟨trace, later⟩ := ih (Nat.le_of_succ_le_succ within) fun j less =>
        rejected (j + 1) (Nat.succ_lt_succ less)
      have here := rejected 0 k.succ_pos
      refine ⟨(next (x :: rest) s).trace ++ trace, ?_⟩
      rw [wildcard, if_pos (by simpa using here), later, Attempt.after_after, List.drop_succ_cons]

/-- A wildcard with a forbidden pattern passes over the siblings that this one rejects and at which
the rest of the chain is not valid. -/
theorem avoidingUntil_of_rejected : ∀ {k : ℕ} {pos : Position}, k ≤ pos.length →
    (∀ j < k, (next (pos.drop j) s).verdict.isValid = false ∧
      (forbidden (pos.drop j) s).verdict.isInvalid) →
      ∃ trace, avoidingUntil forbidden next pos s =
        (avoidingUntil forbidden next (pos.drop k) s).after trace := by
  intro k
  induction k with
  | zero => exact fun _ _ => ⟨[], rfl⟩
  | succ k ih =>
    intro pos within passed
    cases pos with
    | nil => cases within
    | cons x rest =>
      obtain ⟨trace, later⟩ := ih (Nat.le_of_succ_le_succ within) fun j less =>
        passed (j + 1) (Nat.succ_lt_succ less)
      obtain ⟨unfulfilled, rejected⟩ := passed 0 k.succ_pos
      rw [List.drop_zero] at unfulfilled rejected
      refine ⟨(next (x :: rest) s).trace ++ (forbidden (x :: rest) s).trace ++ trace, ?_⟩
      simp only [avoidingUntil]
      rw [if_neg (by simp [unfulfilled]), if_pos rejected, later, Attempt.after_after,
        List.drop_succ_cons]

/-! ### The first sibling that serves -/

theorem isInvalid_of_notMem_accepted (within : k < pos.length) (h : k ∉ next.accepted pos s) :
    (next (pos.drop k) s).verdict.isInvalid := by
  by_contra notRejected
  exact h ⟨within, by simpa using notRejected⟩

theorem isValid_eq_false_of_notMem_fulfilled (within : k ≤ pos.length)
    (h : k ∉ next.fulfilled pos s) : (next (pos.drop k) s).verdict.isValid = false := by
  by_contra valid
  exact h ⟨within, by simpa using valid⟩

/-- **A wildcard goes on at the first sibling that the rest of the chain does not reject.** -/
theorem wildcard_of_isLeast (h : IsLeast (next.accepted pos s) k) :
    ∃ trace, wildcard next pos s = (next (pos.drop k) s).after trace := by
  obtain ⟨⟨within, here⟩, least⟩ := h
  have rejected : ∀ j < k, (next (pos.drop j) s).verdict.isInvalid := fun j less =>
    isInvalid_of_notMem_accepted (less.trans within) fun mem => (least mem).not_gt less
  obtain ⟨trace, passed⟩ := wildcard_of_rejected within.le rejected
  refine ⟨trace, ?_⟩
  rw [passed]
  cases row : pos.drop k with
  | nil => exact absurd (List.drop_eq_nil_iff.mp row) within.not_ge
  | cons x rest =>
    rw [row] at here
    rw [wildcard, if_neg (by simp [here])]

/-- A wildcard that is stopped by no sibling comes to the end of the row. -/
theorem wildcard_of_accepted_eq_empty (h : next.accepted pos s = ∅) :
    ∃ trace, wildcard next pos s = (atEnd next s).after trace := by
  have rejected : ∀ j < pos.length, (next (pos.drop j) s).verdict.isInvalid := fun j less =>
    isInvalid_of_notMem_accepted less fun mem => Set.eq_empty_iff_forall_notMem.mp h j mem
  obtain ⟨trace, passed⟩ := wildcard_of_rejected le_rfl rejected
  exact ⟨trace, by rw [passed, List.drop_length, wildcard]⟩

/-- **A wildcard with a forbidden pattern goes on at the first place where the rest of the chain is
valid**, if every sibling in front is rejected by the forbidden pattern. -/
theorem avoidingUntil_of_isLeast (h : IsLeast (next.fulfilled pos s) k)
    (rejected : ∀ j < k, (forbidden (pos.drop j) s).verdict.isInvalid) :
    (avoidingUntil forbidden next pos s).verdict.isValid ∧
      (avoidingUntil forbidden next pos s).scope = (next (pos.drop k) s).scope := by
  obtain ⟨⟨within, here⟩, least⟩ := h
  have unfulfilled : ∀ j < k, (next (pos.drop j) s).verdict.isValid = false := fun j less =>
    isValid_eq_false_of_notMem_fulfilled (less.le.trans within) fun mem =>
      (least mem).not_gt less
  obtain ⟨trace, passed⟩ := avoidingUntil_of_rejected within fun j less =>
    ⟨unfulfilled j less, rejected j less⟩
  rw [passed, Attempt.after_verdict, Attempt.after_scope]
  cases row : pos.drop k with
  | nil =>
    rw [row] at here
    simp [avoidingUntil, atEnd, here]
  | cons x rest =>
    rw [row] at here
    simp [avoidingUntil, here]

theorem isLeast_fulfilled_cons {x : Site} {rest : List Site}
    (here : (next (x :: rest) s).verdict.isValid = false)
    (h : IsLeast (next.fulfilled rest s) k) : IsLeast (next.fulfilled (x :: rest) s) (k + 1) := by
  refine ⟨⟨Nat.succ_le_succ h.1.1, h.1.2⟩, fun j mem => ?_⟩
  cases j with
  | zero => exact absurd mem.2 (by simp [here])
  | succ j => exact Nat.succ_le_succ (h.2 ⟨Nat.le_of_succ_le_succ mem.1, mem.2⟩)

/-- A wildcard with a forbidden pattern is valid for no other reason. -/
theorem isLeast_of_avoidingUntil (h : (avoidingUntil forbidden next pos s).verdict.isValid) :
    ∃ k, IsLeast (next.fulfilled pos s) k ∧
      ∀ j < k, (forbidden (pos.drop j) s).verdict.isInvalid := by
  induction pos with
  | nil =>
    rw [avoidingUntil, atEnd] at h
    by_cases last : (next [] s).verdict.isValid
    · exact ⟨0, ⟨⟨le_rfl, last⟩, fun _ _ => Nat.zero_le _⟩,
        fun j less => absurd less j.not_lt_zero⟩
    · rw [if_neg last] at h
      cases h
  | cons x rest ih =>
    simp only [avoidingUntil] at h
    by_cases here : (next (x :: rest) s).verdict.isValid
    · exact ⟨0, ⟨⟨Nat.zero_le _, here⟩, fun _ _ => Nat.zero_le _⟩,
        fun j less => absurd less j.not_lt_zero⟩
    · rw [if_neg here] at h
      by_cases probe : (forbidden (x :: rest) s).verdict.isInvalid
      · rw [if_pos probe] at h
        obtain ⟨k, least, rejected⟩ := ih h
        refine ⟨k + 1, isLeast_fulfilled_cons (by simpa using here) least, fun j less => ?_⟩
        cases j with
        | zero => exact probe
        | succ j => exact rejected j (Nat.lt_of_succ_lt_succ less)
      · rw [if_neg probe] at h
        cases h

/-- Without a rest of the chain, a wildcard with a forbidden pattern goes on to the end of the
row. -/
theorem scope_avoidingUntil_ending (pos : Position) (s : Scope) :
    (avoidingUntil forbidden ending pos s).scope = s :=
  returns_avoidingUntil (Q := (· = s)) rfl (fun pos => scope_ending pos s) pos

end Matcher

namespace Pattern

variable {forbidden next : Pattern}

/-- A wildcard with a forbidden pattern is one that goes on to where the rest of its chain is valid,
also where nothing comes after it. -/
theorem answer_wildcardExcept (given : forbidden ≠ nil) (next : Pattern) (pos : Position)
    (s : Scope) :
    let answer := (node .wildcardExcept forbidden next).matcher pos s
    let stopped := forbidden.matcher.avoidingUntil next.matcher pos s
    answer.verdict = stopped.verdict ∧ answer.scope = stopped.scope := by
  by_cases last : next = nil
  · subst last
    rw [matcher_avoiding given, matcher]
    refine ⟨verdict_avoiding forbidden.matcher s, ?_⟩
    rw [Matcher.scope_avoiding, Matcher.scope_avoidingUntil_ending]
  · rw [matcher_avoidingUntil given last]
    exact ⟨rfl, rfl⟩

/-- **A wildcard with a forbidden pattern stops at the first place where the rest of its chain is
valid.** If there is such a place, and the forbidden pattern rejects every sibling in front of it,
the wildcard is valid and returns the scope that the rest of the chain returns there from the scope
that was given. Else it is rejected, and returns the scope that was given. It never leaves nodes
over. -/
theorem guarded_wildcard_stops_at_first (given : forbidden ≠ nil) (next : Pattern) (pos : Position)
    (s : Scope) :
    let answer := (node .wildcardExcept forbidden next).matcher pos s
    let served := fun k => IsLeast (next.matcher.fulfilled pos s) k ∧
      ∀ j < k, (forbidden.matcher (pos.drop j) s).verdict.isInvalid
    (∀ k, served k →
        answer.verdict.isValid ∧ answer.scope = (next.matcher (pos.drop k) s).scope) ∧
      ((∀ k, ¬served k) → answer.verdict = .invalid ∧ answer.scope = s) ∧
      answer.verdict.isLeftover = false := by
  intro answer served
  obtain ⟨verdict_eq, scope_eq⟩ := answer_wildcardExcept given next pos s
  have full : answer.verdict.isLeftover = false := by
    rw [verdict_eq]
    exact Verdict.isLeftover_eq_false fun _ _ => Matcher.avoidingUntil_ne_leftover pos
  refine ⟨fun k ⟨least, rejected⟩ => ?_, fun unserved => ?_, full⟩
  · rw [verdict_eq, scope_eq]
    exact Matcher.avoidingUntil_of_isLeast least rejected
  · have notValid : ¬answer.verdict.isValid := by
      rw [verdict_eq]
      intro valid
      obtain ⟨k, served⟩ := Matcher.isLeast_of_avoidingUntil valid
      exact unserved k served
    have invalid := Verdict.eq_invalid (by simpa using notValid) full
    rw [verdict_eq] at invalid
    exact ⟨verdict_eq.trans invalid,
      scope_eq.trans (Matcher.scope_avoidingUntil_of_invalid pos invalid)⟩

/-- The second of two bold words, since the first one is not followed by an underlined one. -/
theorem guarded_wildcard_stops_at_second_word :
    let forbidden := node (.element "i") nil nil
    let word := node (.element "b") (node (.capture "x") (node .wildcard nil nil) nil)
      (node (.element "u") nil nil)
    let row : Position := [.element ⟨[0], 0⟩ "b" [], .element ⟨[1], 0⟩ "b" [],
      .element ⟨[2], 0⟩ "u" []]
    let answer := (node .wildcardExcept forbidden word).matcher row .fresh
    forbidden ≠ nil ∧ IsLeast (word.matcher.fulfilled row .fresh) 1 ∧ answer.verdict.isValid ∧
      answer.scope = (word.matcher (row.drop 1) .fresh).scope := by
  intro forbidden word row answer
  have given : forbidden ≠ nil := nofun
  have first : (word.matcher row .fresh).verdict.isValid = false := by cbv
  have probe : (forbidden.matcher row .fresh).verdict.isInvalid := by cbv
  have least : IsLeast (word.matcher.fulfilled row .fresh) 1 := by
    refine ⟨⟨by decide, by cbv⟩, fun k mem => Nat.one_le_iff_ne_zero.mpr ?_⟩
    rintro rfl
    exact absurd mem.2 (by simpa using first)
  refine ⟨given, least, (guarded_wildcard_stops_at_first given word row .fresh).1 1 ⟨least, ?_⟩⟩
  intro j less
  obtain rfl := Nat.lt_one_iff.mp less
  exact probe

/-- **A wildcard stops at the first sibling that the rest of its chain does not reject.** It comes
to the verdict and the scope that the rest of the chain comes to there from the scope that was
given, whatever other siblings, all of them rejected, stand in front. If there is no such sibling,
it is valid without a text where the rest of the chain is valid behind the last one, with the scope
that this returns; else it is rejected, and returns the scope that was given. -/
theorem wildcard_stops_at_first (given : next ≠ nil) (child : Pattern) (pos : Position)
    (s : Scope) :
    let wildcard := (node .wildcard child next).matcher
    let last := next.matcher [] s
    (∀ k, IsLeast (next.matcher.accepted pos s) k →
        let found := next.matcher (pos.drop k) s
        ((wildcard pos s).verdict = found.verdict ∧ (wildcard pos s).scope = found.scope) ∧
          ∀ others : List Site,
            (∀ j < others.length,
              (next.matcher (others.drop j ++ pos.drop k) s).verdict.isInvalid) →
            (wildcard (others ++ pos.drop k) s).verdict = found.verdict ∧
              (wildcard (others ++ pos.drop k) s).scope = found.scope) ∧
      (next.matcher.accepted pos s = ∅ →
        (last.verdict.isValid →
            (wildcard pos s).verdict = .valid none ∧ (wildcard pos s).scope = last.scope) ∧
          (¬last.verdict.isValid →
            (wildcard pos s).verdict = .invalid ∧ (wildcard pos s).scope = s)) := by
  intro wildcard last
  have opened : wildcard = next.matcher.wildcard := matcher_wildcard given
  rw [opened]
  refine ⟨fun k least => ⟨?_, fun others rejected => ?_⟩, fun none => ?_⟩
  · obtain ⟨trace, answer⟩ := Matcher.wildcard_of_isLeast least
    rw [answer]
    exact ⟨rfl, rfl⟩
  · -- the other siblings are passed over, up to where the rest of the row starts
    have first : IsLeast (next.matcher.accepted (others ++ pos.drop k) s) others.length := by
      obtain ⟨within, here⟩ := least.1
      refine ⟨⟨by simpa using within, by simpa using here⟩, fun j mem => ?_⟩
      by_contra less
      have less := not_le.mp less
      have gone := rejected j less
      rw [← List.drop_append_of_le_length less.le, mem.2] at gone
      cases gone
    obtain ⟨trace, answer⟩ := Matcher.wildcard_of_isLeast first
    rw [answer, List.drop_left]
    exact ⟨rfl, rfl⟩
  · obtain ⟨trace, answer⟩ := Matcher.wildcard_of_accepted_eq_empty none
    rw [answer, Attempt.after_verdict, Attempt.after_scope, Matcher.atEnd]
    refine ⟨fun valid => ?_, fun notValid => ?_⟩
    · rw [if_pos valid]
      exact ⟨rfl, rfl⟩
    · rw [if_neg notValid]
      exact ⟨rfl, rfl⟩

/-- A rule behind a bold word: what was bound at another bold word in front is not kept. -/
theorem wildcard_stops_at_second_word :
    let word := node (.element "b") (node (.capture "x") (node .wildcard nil nil) nil)
      (node (.element "hr") nil nil)
    let row : Position := [.element ⟨[0], 0⟩ "b" [], .element ⟨[1], 0⟩ "b" [],
      .element ⟨[2], 0⟩ "hr" []]
    let answer := (node .wildcard nil word).matcher row .fresh
    let found := word.matcher (row.drop 1) .fresh
    word ≠ nil ∧ IsLeast (word.matcher.accepted row .fresh) 1 ∧ answer.verdict = found.verdict ∧
      answer.scope = found.scope := by
  intro word row answer found
  have given : word ≠ nil := nofun
  have first : (word.matcher row .fresh).verdict.isInvalid := by cbv
  have least : IsLeast (word.matcher.accepted row .fresh) 1 := by
    refine ⟨⟨by decide, by cbv⟩, fun k mem => Nat.one_le_iff_ne_zero.mpr ?_⟩
    rintro rfl
    exact absurd first (by simpa using mem.2)
  exact ⟨given, least, ((wildcard_stops_at_first given nil row .fresh).1 1 least).1⟩

end Pattern

end Stencil
