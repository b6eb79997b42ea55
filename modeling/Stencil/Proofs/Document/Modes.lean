import Stencil.Document.Read
import Stencil.Proofs.Success

/-!
# Document — strict and lenient reading

What the strict way of reading takes, the lenient one takes too, and makes the same of it
(`Document.read_lenient_of_strict`): the two differ in what they make of end tags that are out of
place and of elements that stay open, which the strict one refuses.
-/

namespace Stencil

open Markup

namespace Assembly

variable {a b : Assembly} {position : Nat} {name : String}

/-- An end tag that is in place closes the same elements in both ways of reading. -/
theorem close_lenient_of_strict (h : a.close .strict position name = .ok b) :
    a.close .lenient position name = .ok b := by
  unfold close at h ⊢
  split at h
  · next void => rwa [if_pos void]
  · next void =>
    rw [if_neg void]
    cases e : a.inside? name with
    | none =>
      rw [e] at h
      cases h
    | some inside =>
      rw [e] at h
      -- an end tag for another element than the innermost one is refused
      cases inside with
      | zero => exact h
      | succ inside =>
        cases f : a.enclosing with
        | nil =>
          rw [f] at h
          exact h
        | cons innermost outer =>
          rw [f] at h
          cases h

theorem step_lenient_of_strict {event : Nat × Event} (h : step .strict a event = .ok b) :
    step .lenient a event = .ok b := by
  obtain ⟨position, event⟩ := event
  cases event with
  | start name attributes => exact h
  | selfClosed name attributes => exact h
  | finish name => exact close_lenient_of_strict h
  | text content => exact h

theorem foldlM_lenient_of_strict (events : List (Nat × Event)) (a : Assembly)
    (h : events.foldlM (step .strict) a = .ok b) : events.foldlM (step .lenient) a = .ok b := by
  induction events generalizing a with
  | nil => exact h
  | cons event rest ih =>
    rw [List.foldlM_cons] at h ⊢
    obtain ⟨next, first, later⟩ := ok_of_bind h
    rw [step_lenient_of_strict first]
    exact ih next later

theorem finish_lenient_of_strict {top : List Node} (h : a.finish .strict = .ok top) :
    a.finish .lenient = .ok top := by
  unfold finish at h ⊢
  cases e : a.enclosing with
  | nil =>
    rw [e] at h
    exact h
  | cons innermost outer =>
    rw [e] at h
    cases h

theorem ofReading_lenient_of_strict {r : Reading} {top : List Node}
    (h : ofReading .strict r = .ok top) : ofReading .lenient r = .ok top := by
  obtain ⟨whole, events, last⟩ := ok_of_bind h
  rw [ofReading, foldlM_lenient_of_strict _ _ events]
  cases fault : r.fault with
  | some fault =>
    rw [fault] at last
    cases last
  | none =>
    rw [fault] at last
    exact finish_lenient_of_strict last

theorem ofReading_of_strict {r : Reading} {top : List Node} (h : ofReading .strict r = .ok top)
    (mode : Mode) : ofReading mode r = .ok top :=
  match mode with
  | .lenient => ofReading_lenient_of_strict h
  | .strict => h

end Assembly

namespace Document

/-- **What is read strictly is read leniently to the same document.** -/
theorem read_lenient_of_strict {source : String} {d : Document}
    (h : read source .strict = .ok d) : read source .lenient = .ok d := by
  obtain ⟨top, assembled, rfl⟩ := ok_of_map h
  rw [read, Assembly.ofReading_lenient_of_strict assembled]
  rfl

end Document

end Stencil
