import Stencil.Proofs.Matching.Deepest

/-!
# Matching — the line that sums a match up

The line says how the match ended, with the node that is left over if there is one, and adds the
deepest node before which the pattern ran out where that is another one (`Attempt.SumsUp`). The end
of the match is told by the line alone (`Attempt.SumsUp.eq_valid_iff`).
-/

namespace Stencil.Attempt

/-- What is added of the nodes before which the pattern ran out: the last one of the deepest of
them, if there is one and it is not the one that is left over. -/
inductive Adds (a : Attempt) : String → Prop
  | nothing : a.ranOut = [] → Adds a ""
  | same {s : Site} : Site.LastDeepest a.ranOut s → a.verdict.site?.map Site.place = some s.place →
      Adds a ""
  | other {s : Site} : Site.LastDeepest a.ranOut s →
      a.verdict.site?.map Site.place ≠ some s.place →
      Adds a (" (template ran out before " ++ s.describe ++ ")")

/-- The lines that sum a match up: one for each way to end. -/
inductive SumsUp (a : Attempt) : String → Prop
  | valid {text : Option String} : a.verdict = .valid text → SumsUp a "valid"
  | leftover {t : Site} {after : List Site} {added : String} : a.verdict = .leftover t after →
      a.Adds added → SumsUp a ("partial at " ++ t.describe ++ added)
  | invalid {added : String} : a.verdict = .invalid → a.Adds added → SumsUp a ("invalid" ++ added)

variable {a : Attempt} {added line : String}

theorem adds_divergence (a : Attempt) : a.Adds a.divergence := by
  rw [divergence]
  cases found : a.deepest with
  | none => exact .nothing (Site.foldl_deeper_eq_none_iff.mp found)
  | some s =>
    have last : Site.LastDeepest a.ranOut s := Site.lastDeepest_of_foldl found
    dsimp only
    split
    · next same => exact .same last same
    · next other => exact .other last other

theorem Adds.eq_divergence (h : a.Adds added) : added = a.divergence := by
  have found {s : Site} (last : Site.LastDeepest a.ranOut s) : a.deepest = some s :=
    Site.foldl_deeper_eq_some_iff.mpr last
  cases h with
  | nothing none => rw [divergence, deepest, none, List.foldl_nil]
  | same last same => simp only [divergence, found last, if_pos same]
  | other last other => simp only [divergence, found last, if_neg other]

theorem sumsUp_summary (a : Attempt) : a.SumsUp a.summary := by
  rw [summary]
  cases ends : a.verdict with
  | valid text => exact .valid ends
  | leftover t after => exact .leftover ends a.adds_divergence
  | invalid => exact .invalid ends a.adds_divergence

/-- **There is one line that sums a match up.** -/
theorem sumsUp_iff : a.SumsUp line ↔ line = a.summary := by
  constructor
  · intro h
    cases h with
    | valid ends => rw [summary, ends]
    | leftover ends added => rw [summary, ends, added.eq_divergence]
    | invalid ends added => rw [summary, ends, added.eq_divergence]
  · rintro rfl
    exact a.sumsUp_summary

/-- How a match ended is told by the first letter of its line. -/
theorem SumsUp.head (h : a.SumsUp line) :
    line.toList.head? = match a.verdict with
      | .valid _ => some 'v'
      | .leftover _ _ => some 'p'
      | .invalid => some 'i' := by
  cases h with
  | valid ends => rw [ends]; rfl
  | leftover ends added => rw [ends]; simp [String.toList_append]
  | invalid ends added => rw [ends]; simp [String.toList_append]

/-- **A match is valid if and only if its line says so.** -/
theorem SumsUp.eq_valid_iff (h : a.SumsUp line) : line = "valid" ↔ a.verdict.isValid := by
  constructor
  · rintro rfl
    have first := h.head
    cases ends : a.verdict with
    | valid text => rfl
    | leftover t after => simp [ends] at first
    | invalid => simp [ends] at first
  · intro valid
    cases h with
    | valid ends => rfl
    | leftover ends added => simp [ends, Verdict.isValid] at valid
    | invalid ends added => simp [ends, Verdict.isValid] at valid

end Stencil.Attempt
