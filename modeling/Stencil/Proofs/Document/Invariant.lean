import Stencil.Document.Assembly
import Stencil.Proofs.Success

/-!
# Document — invariants of trees under way

What an added leaf, an opened element, a text and a closed element keep of a tree under way is kept
by every event, and so it holds of a tree that is finished (`Assembly.Invariant.finished`).
-/

namespace Stencil

open Markup

namespace Assembly

variable {a b : Assembly} {mode : Mode}

/-- However an end tag is taken, it closes a number of elements. -/
theorem close_eq_leaveAll {position : Nat} {name : String}
    (h : a.close mode position name = .ok b) : ∃ n, b = leaveAll n a := by
  unfold close at h
  split at h
  · exact ⟨0, (Except.ok.inj h).symm⟩
  · split at h
    · exact ⟨0, (Except.ok.inj h).symm⟩
    · cases h
    · cases h
    · exact ⟨_, (Except.ok.inj h).symm⟩

theorem enclosing_leaveAll (a : Assembly) : ∀ n, (leaveAll n a).enclosing = a.enclosing.drop n := by
  intro n
  induction n generalizing a with
  | zero => rfl
  | succ n ih =>
    rw [leaveAll, ih, leave]
    split
    · next e => simp [e]
    · next o outer e => simp [e]

/-- What holds of nothing read yet, and is kept by each way in which a tree under way grows. Only
elements that can have content are opened. -/
structure Invariant (P : Assembly → Prop) : Prop where
  empty : P empty
  leaf {a : Assembly} (name : String) (attributes : List Attribute) :
    P a → P (a.leaf name attributes)
  enter {a : Assembly} {name : String} (attributes : List Attribute) :
    isVoid name = false → P a → P (a.enter name attributes)
  write {a : Assembly} (content : String) : P a → P (a.write content)
  leave {a : Assembly} : P a → P a.leave

namespace Invariant

variable {P : Assembly → Prop}

theorem leaveAll (inv : Invariant P) (n : Nat) (h : P a) : P (a.leaveAll n) := by
  induction n generalizing a with
  | zero => exact h
  | succ n ih => exact ih (inv.leave h)

/-- **An event keeps an invariant.** -/
theorem step (inv : Invariant P) {event : Nat × Event} (h : P a)
    (e : Assembly.step mode a event = .ok b) : P b := by
  obtain ⟨position, event⟩ := event
  cases event with
  | start name attributes =>
    cases e
    split
    · exact inv.leaf name attributes h
    · next solid => exact inv.enter attributes (by simpa using solid) h
  | selfClosed name attributes =>
    cases e
    exact inv.leaf name attributes h
  | finish name =>
    obtain ⟨n, rfl⟩ := close_eq_leaveAll e
    exact inv.leaveAll n h
  | text content =>
    cases e
    exact inv.write content h

theorem run (inv : Invariant P) (events : List (Nat × Event)) (h : P a)
    (e : events.foldlM (Assembly.step mode) a = .ok b) : P b := by
  induction events generalizing a with
  | nil =>
    cases e
    exact h
  | cons event rest ih =>
    rw [List.foldlM_cons] at e
    obtain ⟨next, first, later⟩ := ok_of_bind e
    exact ih (inv.step h first) later

/-- **A finished tree is the top level of one that keeps the invariant**, with nothing open
around it. -/
theorem finished (inv : Invariant P) {r : Reading} {top : List Node}
    (h : ofReading mode r = .ok top) :
    ∃ a, P a ∧ a.enclosing = [] ∧ top = a.siblings.reverse := by
  obtain ⟨whole, events, last⟩ := ok_of_bind h
  have kept := inv.leaveAll whole.enclosing.length (inv.run _ inv.empty events)
  have closed : (whole.leaveAll whole.enclosing.length).enclosing = [] := by
    rw [enclosing_leaveAll, List.drop_length]
  split at last
  · cases last
  · unfold finish at last
    split at last
    · cases last
    · cases last
      exact ⟨_, kept, closed, rfl⟩

end Invariant

end Assembly

end Stencil
