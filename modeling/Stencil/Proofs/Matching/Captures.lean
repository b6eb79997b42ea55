import Stencil.Proofs.Matching.Told
import Stencil.Proofs.Matching.Uniform

/-!
# Matching — captures and their handlers

The captures that were bound on the way of a match, in order (`Attempt.captures`). Handlers answer
those of them that they are there for (`Attempt.Reports`), and neither they nor the scope have any
influence on the match (`Pattern.matching_ignores_captures`).
-/

namespace Stencil

/-- A capture that was bound, with the scope right after. -/
structure Captured where
  name : String
  value : String
  scope : Scope

namespace Captured

/-- A capture that shows its scope on top of another one. -/
def onto (s : Scope) (c : Captured) : Captured := { c with scope := c.scope.onto s }

/-- What was bound to what. -/
def pair (c : Captured) : String × String := (c.name, c.value)

end Captured

/-- The capture that was bound, if it was one. -/
def Happening.captured? : Happening → Option Captured
  | captured name value scope => some ⟨name, value, scope⟩
  | ranOut _ => none

/-- The captures that were bound, in order. -/
def Attempt.captures (a : Attempt) : List Captured := a.trace.filterMap (·.captured?)

/-- The answers of handlers are told of the captures that have a handler: one answer for each, in
order, from the handler of its name, which sees the text that was captured under this name. -/
def Attempt.Reports {α : Type} (h : Dispatcher α) (a : Attempt) : Prop :=
  List.Forall₂
    (fun c answer => c.scope.get? c.name = some c.value ∧ h.dispatch c.name c.scope = some answer)
    (a.captures.filter fun c => h.handles c.name) (a.dispatch h)

variable {α : Type} {a b : Attempt} {s : Scope}

/-! ### Handlers -/

theorem Dispatcher.isSome_dispatch (h : Dispatcher α) (name : String) (scope : Scope) :
    (h.dispatch name scope).isSome = h.handles name := by
  rw [dispatch, handles, Option.isSome_map]

theorem Dispatcher.dispatch_register (h : Dispatcher α) (name : String) (handler : Scope → α)
    (scope : Scope) : (h.register name handler).dispatch name scope = some (handler scope) := by
  rw [dispatch, register, NameMap.get?_insert, if_pos rfl]
  rfl

theorem Attempt.dispatch_eq (h : Dispatcher α) (a : Attempt) :
    a.dispatch h = a.captures.filterMap fun c => h.dispatch c.name c.scope := by
  rw [dispatch, captures, List.filterMap_filterMap]
  refine List.filterMap_congr fun x _ => ?_
  cases x with
  | captured name value scope => rfl
  | ranOut site => rfl

/-- A name that was just captured is bound to the text that was captured. -/
theorem Attempt.Told.get?_of_mem {row : Position} (told : a.Told row) {c : Captured}
    (mem : c ∈ a.captures) : c.scope.get? c.name = some c.value := by
  obtain ⟨x, here, eq⟩ := List.mem_filterMap.mp mem
  cases x with
  | captured name value scope =>
    cases eq
    rw [Scope.get?_eq, (told.trace _ here).1]
    rfl
  | ranOut site => cases eq

/-- The handlers are called for the captures of their names, and for no others. -/
theorem Attempt.Told.reports {row : Position} (told : a.Told row) (h : Dispatcher α) :
    a.Reports h := by
  have seen : ∀ c ∈ a.captures, c.scope.get? c.name = some c.value := fun _ => told.get?_of_mem
  rw [Reports, dispatch_eq]
  revert seen
  generalize a.captures = captures
  intro seen
  induction captures with
  | nil => exact .nil
  | cons c later ih =>
    have behind := ih fun c mem => seen c (List.mem_cons_of_mem _ mem)
    have held := h.isSome_dispatch c.name c.scope
    cases answer : h.dispatch c.name c.scope with
    | none =>
      rw [answer] at held
      simpa [List.filter_cons, List.filterMap_cons, ← held, answer] using behind
    | some value =>
      rw [answer] at held
      simpa [List.filter_cons, List.filterMap_cons, ← held, answer] using
        ⟨seen c List.mem_cons_self, behind⟩

/-! ### Answers on top of a scope -/

namespace Attempt

theorem ranOut_onto (a : Attempt) (s : Scope) : (a.onto s).ranOut = a.ranOut := by
  rw [ranOut, ranOut, onto, List.filterMap_map]
  refine List.filterMap_congr fun x _ => ?_
  cases x with
  | captured name value scope => rfl
  | ranOut site => rfl

theorem deepest_onto (a : Attempt) (s : Scope) : (a.onto s).deepest = a.deepest := by
  rw [deepest, deepest, ranOut_onto]

theorem captures_onto (a : Attempt) (s : Scope) :
    (a.onto s).captures = a.captures.map (·.onto s) := by
  rw [captures, captures, onto, List.filterMap_map, List.map_filterMap]
  refine List.filterMap_congr fun x _ => ?_
  cases x with
  | captured name value scope => rfl
  | ranOut site => rfl

theorem pairs_onto (a : Attempt) (s : Scope) :
    (a.onto s).captures.map Captured.pair = a.captures.map Captured.pair := by
  rw [captures_onto, List.map_map]
  rfl

end Attempt

namespace Pattern

/-- **Matching never looks at captures.** From two scopes, and whatever handlers listen, a match
comes to the same verdict, the deepest node before which the pattern ran out is the same, and the
same texts are captured under the same names in the same order. The handlers are called for just the
captures of their names, in this order. And what is bound is the same: both matches are one and the
same, put on top of the scope from which it is started, so that from equal scopes the scopes that are
returned and those that handlers see are equal. -/
theorem matching_ignores_captures (p : Pattern) (pos : Position) (s s' : Scope) {α β : Type}
    (h : Dispatcher α) (h' : Dispatcher β) :
    let a := p.matcher pos s
    let b := p.matcher pos s'
    a.verdict = b.verdict ∧ a.deepest = b.deepest ∧
      a.captures.map Captured.pair = b.captures.map Captured.pair ∧
      a.Reports h ∧ b.Reports h' ∧
      ∃ made : Attempt, a = made.onto s ∧ b = made.onto s' := by
  intro a b
  have from_s : a = (p.matcher pos .fresh).onto s := p.matcher_onto pos s
  have from_s' : b = (p.matcher pos .fresh).onto s' := p.matcher_onto pos s'
  refine ⟨?_, ?_, ?_, (p.told_matcher pos s).reports h, (p.told_matcher pos s').reports h',
    _, from_s, from_s'⟩
  · rw [from_s, from_s', Attempt.onto_verdict, Attempt.onto_verdict]
  · rw [from_s, from_s', Attempt.deepest_onto, Attempt.deepest_onto]
  · rw [from_s, from_s', Attempt.pairs_onto, Attempt.pairs_onto]

end Pattern

end Stencil
