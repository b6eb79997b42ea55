import Mathlib.Data.List.Basic
import Stencil.Matching.Matcher

/-!
# Matching — what one step does

The equations of the matchers that go on by what an answer is: an element by its children, the
rounds of a repetition by how a round ended, an alternative by how a branch ended, and a wildcard by
what it has below it and after it.
-/

namespace Stencil

namespace Verdict

variable {text : Option String} {s : Site} {after : List Site}

@[simp] theorem isValid_valid : (valid text).isValid = true := rfl
@[simp] theorem isValid_leftover : (leftover s after).isValid = false := rfl
@[simp] theorem isValid_invalid : invalid.isValid = false := rfl
@[simp] theorem isLeftover_valid : (valid text).isLeftover = false := rfl
@[simp] theorem isLeftover_leftover : (leftover s after).isLeftover = true := rfl
@[simp] theorem isLeftover_invalid : invalid.isLeftover = false := rfl
@[simp] theorem isInvalid_valid : (valid text).isInvalid = false := rfl
@[simp] theorem isInvalid_leftover : (leftover s after).isInvalid = false := rfl
@[simp] theorem isInvalid_invalid : invalid.isInvalid = true := rfl

theorem isValid_iff (v : Verdict) : v.isValid ↔ ∃ text, v = valid text := by
  cases v <;> simp

theorem isInvalid_iff (v : Verdict) : v.isInvalid ↔ v = invalid := by
  cases v <;> simp

theorem isValid_eq_false {v : Verdict} (h : ∀ text, v ≠ valid text) : v.isValid = false := by
  cases v with
  | valid text => exact absurd rfl (h text)
  | leftover s after => rfl
  | invalid => rfl

theorem isLeftover_eq_false {v : Verdict} (h : ∀ s after, v ≠ leftover s after) :
    v.isLeftover = false := by
  cases v with
  | valid text => rfl
  | leftover s after => exact absurd rfl (h s after)
  | invalid => rfl

theorem eq_invalid {v : Verdict} (notValid : v.isValid = false) (full : v.isLeftover = false) :
    v = invalid := by
  cases v with
  | valid text => cases notValid
  | leftover s after => cases full
  | invalid => rfl

end Verdict

namespace Attempt

@[simp] theorem after_verdict (trace : List Happening) (a : Attempt) :
    (a.after trace).verdict = a.verdict := rfl

theorem after_scope (trace : List Happening) (a : Attempt) : (a.after trace).scope = a.scope := rfl

theorem after_after (a : Attempt) (trace trace' : List Happening) :
    (a.after trace').after trace = a.after (trace ++ trace') := by
  simp only [after, List.append_assoc]

@[simp] theorem quiet_verdict (v : Verdict) (s : Scope) : (quiet v s).verdict = v := rfl

end Attempt

namespace Matcher

variable {child next : Matcher} {s : Scope}

/-! ### Elements -/

/-- An element with valid children is followed by what comes after it. -/
theorem element_of_valid {tag : String} {place : Place} {children rest : List Site}
    (h : (child children s).verdict.isValid) :
    element tag child next (.element place tag children :: rest) s =
      ⟨(next rest (child children s).scope).verdict,
        (child children s).scope.mergeInnermost (next rest (child children s).scope).scope,
        (child children s).trace ++ (next rest (child children s).scope).trace⟩ := by
  rw [element, if_pos rfl]
  exact if_pos h

/-! ### The rounds of a repetition -/

section Rounds

variable {matched : Bool} {pos : Position} {x : Site} {rest : List Site}

/-- A round that leaves fewer nodes than it was given is followed by another one. -/
theorem rounds_of_shorter (h : (child pos s.push).verdict = .leftover x rest)
    (shorter : Site.sizes (x :: rest) < Site.sizes pos) :
    rounds child matched pos s =
      { rounds child true (x :: rest) s with
        trace := (child pos s.push).trace ++ (rounds child true (x :: rest) s).trace } := by
  rw [rounds]
  simp [h, shorter]

/-- A round that leaves as many nodes as it was given is the last one. -/
theorem rounds_of_not_shorter (h : (child pos s.push).verdict = .leftover x rest)
    (longer : ¬ Site.sizes (x :: rest) < Site.sizes pos) :
    rounds child matched pos s = ⟨true, false, pos, (child pos s.push).trace⟩ := by
  rw [rounds]
  simp [h, longer]

theorem rounds_of_valid {text : Option String} (h : (child pos s.push).verdict = .valid text) :
    rounds child matched pos s = ⟨true, true, pos, (child pos s.push).trace⟩ := by
  rw [rounds]
  simp [h]

theorem rounds_of_invalid (h : (child pos s.push).verdict = .invalid) :
    rounds child matched pos s = ⟨matched, false, pos, (child pos s.push).trace⟩ := by
  rw [rounds]
  simp [h]

end Rounds

/-! ### The branches of an alternative -/

section Branches

variable {branches : List Matcher} {x y : Site} {rest after : List Site}

theorem firstOf_of_valid (branch : Matcher) {text : Option String}
    (h : (branch (x :: rest) s).verdict = .valid text) :
    firstOf next x rest s (branch :: branches) =
      (next rest (branch (x :: rest) s).scope).after (branch (x :: rest) s).trace := by
  unfold firstOf
  simp [h]

theorem firstOf_last_of_leftover (branch : Matcher)
    (h : (branch (x :: rest) s).verdict = .leftover y after) :
    firstOf next x rest s [branch] =
      (next (y :: after) (branch (x :: rest) s).scope).after (branch (x :: rest) s).trace := by
  unfold firstOf
  simp [h]

theorem firstOf_last_of_invalid (branch : Matcher)
    (h : (branch (x :: rest) s).verdict = .invalid) :
    firstOf next x rest s [branch] = ⟨.invalid, s, (branch (x :: rest) s).trace⟩ := by
  unfold firstOf
  simp [h]

/-- A branch that is not valid, with another one after it. -/
theorem firstOf_of_not_valid (branch : Matcher)
    (h : (branch (x :: rest) s).verdict.isValid = false) (more : branches ≠ []) :
    firstOf next x rest s (branch :: branches) =
      (firstOf next x rest s branches).after (branch (x :: rest) s).trace := by
  obtain ⟨b, branches, rfl⟩ := List.exists_cons_of_ne_nil more
  conv_lhs => unfold firstOf
  cases e : (branch (x :: rest) s).verdict with
  | valid text => simp [e] at h
  | leftover => simp only [e]
  | invalid => simp only [e]

end Branches

end Matcher

namespace Pattern

variable {child next : Pattern}

/-! ### The matchers of repetitions and wildcards -/

theorem matcher_many : (node .many child next).matcher = .many child.matcher next.matcher := by
  rw [matcher]

theorem matcher_wildcard (h : next ≠ nil) :
    (node .wildcard child next).matcher = .wildcard next.matcher := by
  cases next with
  | nil => exact absurd rfl h
  | node => rw [matcher]

theorem matcher_unguarded (h : next ≠ nil) :
    (node .wildcardExcept nil next).matcher = next.matcher := by
  cases next with
  | nil => exact absurd rfl h
  | node => rw [matcher]

theorem matcher_avoiding (h : child ≠ nil) :
    (node .wildcardExcept child nil).matcher = .avoiding child.matcher := by
  rw [matcher]
  exact h

theorem matcher_avoidingUntil (hc : child ≠ nil) (hn : next ≠ nil) :
    (node .wildcardExcept child next).matcher = .avoidingUntil child.matcher next.matcher := by
  rw [matcher]
  · exact hn
  · exact fun h _ => hc h
  · exact fun _ _ _ h _ => hc h

end Pattern

end Stencil
