import Mathlib.Data.List.Basic
import Stencil.Proofs.Matching.Step

/-!
# Matching — properties that every matcher has

The matcher of a pattern is put together from those of its parts. A property that each way of
putting matchers together keeps (`Matcher.Closed`) is a property of the matcher of every pattern
(`Pattern.matcher_of_closed`): what a single step keeps, a whole run keeps. A property that depends
on the names that are captured has to be kept only by captures of these names
(`Matcher.ClosedOver`, `Pattern.matcher_of_closedOver`).
-/

namespace Stencil

namespace Matcher

/-- Every way of putting matchers together, captures apart, keeps the property. -/
structure ClosedButCaptures (P : Matcher → Prop) : Prop where
  ending : P ending
  anywhere : P anywhere
  literal (content : String) : P (literal content)
  search (regex : Regex) : P (search regex)
  element (tag : String) {child next : Matcher} : P child → P next → P (element tag child next)
  framed {child : Matcher} : P child → P (framed child)
  wildcard {next : Matcher} : P next → P (wildcard next)
  avoiding {forbidden : Matcher} : P forbidden → P (avoiding forbidden)
  avoidingUntil {forbidden next : Matcher} :
    P forbidden → P next → P (avoidingUntil forbidden next)
  many {child next : Matcher} : P child → P next → P (many child next)
  either {branches : List Matcher} {next : Matcher} :
    (∀ b ∈ branches, P b) → P next → P (either branches next)

/-- Every way of putting matchers together keeps the property. -/
structure Closed (P : Matcher → Prop) : Prop extends ClosedButCaptures P where
  capture (name : String) {child : Matcher} : P child → P (capture name child)

/-- Every way of putting matchers together keeps the property, where captures are of these names
only. -/
structure ClosedOver (names : List String) (P : Matcher → Prop) : Prop extends
    ClosedButCaptures P where
  capture {name : String} {child : Matcher} : name ∈ names → P child → P (capture name child)

theorem Closed.over {P : Matcher → Prop} (h : Closed P) (names : List String) :
    ClosedOver names P := ⟨h.toClosedButCaptures, fun _ => h.capture _⟩

end Matcher

namespace Pattern

variable {P : Matcher → Prop} {names : List String}

/-- The branches of an alternative are chains too, so they come along in the induction. -/
theorem matcher_and_branches_of_closedOver (h : Matcher.ClosedOver names P) (p : Pattern)
    (sub : ∀ name ∈ p.captures, name ∈ names) : P p.matcher ∧ ∀ b ∈ p.laterBranches, P b := by
  induction p with
  | nil => exact ⟨by rw [matcher]; exact h.ending, by simp [laterBranches]⟩
  | node kind child next ihc ihn =>
    have ihc := ihc fun name mem => sub name (by simp [captures, mem])
    have ihn := ihn fun name mem => sub name (by simp [captures, mem])
    constructor
    · cases kind with
      | element tag => rw [matcher]; exact h.element tag ihc.1 ihn.1
      | literal content => rw [matcher]; exact h.literal content
      | search regex => rw [matcher]; exact h.search regex
      | wildcard =>
        cases next with
        | nil => rw [matcher]; exact h.anywhere
        | node => rw [matcher_wildcard (by simp)]; exact h.wildcard ihn.1
      | wildcardExcept =>
        cases child with
        | nil =>
          cases next with
          | nil => rw [matcher]; exact h.anywhere
          | node => rw [matcher]; exact ihn.1
        | node =>
          cases next with
          | nil => rw [matcher_avoiding (by simp)]; exact h.avoiding ihc.1
          | node =>
            rw [matcher_avoidingUntil (by simp) (by simp)]
            exact h.avoidingUntil ihc.1 ihn.1
      | many => rw [matcher]; exact h.many ihc.1 ihn.1
      | scope => rw [matcher]; exact h.framed ihc.1
      | capture name =>
        rw [matcher]
        exact h.capture (sub name (by simp [captures, Kind.captureName?])) ihc.1
      | either =>
        rw [matcher]
        exact h.either (List.forall_mem_cons.mpr ihc) ihn.1
      | option => rw [matcher]; exact h.anywhere
    · intro b hb
      cases kind with
      | option =>
        rw [laterBranches] at hb
        rcases List.mem_cons.mp hb with rfl | hb
        · exact ihn.1
        · exact ihn.2 b hb
      | _ => exact ihn.2 b (by simpa only [laterBranches] using hb)

/-- **What every step of a pattern keeps, a run of it keeps**, where captures are of these names. -/
theorem matcher_of_closedOver (h : Matcher.ClosedOver names P) (p : Pattern)
    (sub : ∀ name ∈ p.captures, name ∈ names) : P p.matcher :=
  (matcher_and_branches_of_closedOver h p sub).1

/-- **What every step keeps, a run keeps.** -/
theorem matcher_of_closed (h : Matcher.Closed P) (p : Pattern) : P p.matcher :=
  matcher_of_closedOver (h.over p.captures) p fun _ mem => mem

end Pattern

end Stencil
