import Mathlib.Data.List.Basic
import Stencil.Proofs.Document.Balance
import Stencil.Proofs.Document.Nesting

/-!
# Document — repaired end tags

The lenient way of reading takes every row of events, and makes of it what the strict one makes of
the row with its end tags put right (`Assembly.lenient_reads_repaired`): those that close nothing are
left out, and those that are missing are put in.
-/

namespace Stencil

open Markup

/-- End tags that stand at a position. -/
def endTags (position : Nat) (names : List String) : List (Nat × Event) :=
  names.map fun name => (position, .finish name)

/-- A row of events with its end tags put right, where these elements are open before it, the
innermost first. An end tag of a void element or of a name that is not open is left out; before every
other one, the elements are closed that were opened inside the innermost element of its name; and at
the end, all that are still open. -/
def repairFrom (behind : Nat) : List String → List (Nat × Event) → List (Nat × Event)
  | left, [] => endTags behind left
  | left, (position, .start name attributes) :: rest =>
    (position, .start name attributes) ::
      repairFrom behind (if isVoid name then left else name :: left) rest
  | left, (position, .finish name) :: rest =>
    if isVoid name || !left.contains name then repairFrom behind left rest
    else
      endTags position (left.takeWhile (· != name)) ++
        (position, .finish name) :: repairFrom behind (left.dropWhile (· != name)).tail rest
  | left, event :: rest => event :: repairFrom behind left rest

/-- A row of events with its end tags put right. The end tags that are put in at its end stand at a
position behind it. -/
def repair (behind : Nat) (events : List (Nat × Event)) : List (Nat × Event) :=
  repairFrom behind [] events

namespace Assembly

variable {a b : Assembly} {name : String} {position : Nat} {names after : List String}

/-! ### Closing elements -/

/-- The open elements are cut at the innermost one of a name. -/
theorem split_of_mem (h : name ∈ names) :
    names = names.takeWhile (· != name) ++ name :: (names.dropWhile (· != name)).tail := by
  obtain ⟨inner, outer, rfl, absent⟩ := List.eq_append_cons_of_mem h
  have other : ∀ n ∈ inner, (n != name) = true := fun n mem =>
    bne_iff_ne.mpr fun same => absent (same ▸ mem)
  rw [List.takeWhile_append_of_pos other, List.dropWhile_append_of_pos other]
  simp

theorem leave_leaveAll (n : Nat) : ∀ a : Assembly, (leaveAll n a).leave = leaveAll (n + 1) a := by
  induction n with
  | zero => exact fun _ => rfl
  | succ n ih => exact fun a => ih a.leave

theorem openNames_leaveAll (n : Nat) (a : Assembly) :
    (leaveAll n a).openNames = a.openNames.drop n := by
  rw [openNames, enclosing_leaveAll, openNames, List.map_drop]

theorem openNames_leaveAll_succ {inner outer : List String}
    (h : a.openNames = inner ++ name :: outer) :
    (leaveAll (inner.length + 1) a).openNames = outer := by
  rw [openNames_leaveAll, h, List.append_cons]
  exact List.drop_left' (by simp)

/-- An end tag for the innermost open element closes it, in both ways of reading. -/
theorem close_of_openNames (solid : isVoid name = false) (h : a.openNames = name :: after)
    (mode : Mode) : a.close mode position name = .ok a.leave := by
  obtain ⟨o, outer, e, same, -⟩ := List.map_eq_cons_iff.mp h
  exact close_of_innermost solid e same mode

theorem foldlM_endTags (names : List String) : ∀ a : Assembly, a.openNames = names ++ after →
    (∀ n ∈ names, isVoid n = false) →
    (endTags position names).foldlM (step .strict) a = .ok (leaveAll names.length a) := by
  induction names with
  | nil => exact fun _ _ _ => rfl
  | cons n names ih =>
    intro a h solid
    have closed : step .strict a (position, .finish n) = .ok a.leave :=
      close_of_openNames (solid n List.mem_cons_self) h .strict
    have inner : a.leave.openNames = names ++ after := by
      rw [show a.leave = leaveAll 1 a from rfl, openNames_leaveAll, h]
      rfl
    rw [endTags, List.map_cons, List.foldlM_cons, closed]
    exact ih a.leave inner fun n mem => solid n (List.mem_cons_of_mem _ mem)

theorem inside?_eq_some (h : name ∈ a.openNames) :
    a.inside? name = some (a.openNames.takeWhile (· != name)).length := by
  rw [inside?, openNames]
  rw [openNames] at h
  generalize a.enclosing = enclosing at h
  induction enclosing with
  | nil => cases h
  | cons o outer ih =>
    rw [List.findIdx?_cons, List.map_cons, List.takeWhile_cons]
    by_cases same : o.name = name
    · simp [same]
    · have further : name ∈ outer.map (·.name) := by simpa [Ne.symm same] using h
      simp [same, ih further]

/-- An end tag closes the innermost element of its name, with all that are open inside it. -/
theorem close_lenient_of_mem (solid : isVoid name = false) (h : name ∈ a.openNames) :
    a.close .lenient position name =
      .ok (leaveAll ((a.openNames.takeWhile (· != name)).length + 1) a) := by
  unfold close
  rw [if_neg (by simp [solid]), inside?_eq_some h]

theorem close_lenient_of_not_mem (h : name ∉ a.openNames) :
    a.close .lenient position name = .ok a := by
  unfold close
  rw [inside?_eq_none h]
  exact ite_self _

/-! ### Rows of events -/

/-- The tree of a row of events that goes on with a tree under way. -/
def complete (mode : Mode) (a : Assembly) (events : List (Nat × Event)) :
    Except MarkupError (List Node) := events.foldlM (step mode) a >>= (·.finish mode)

theorem ofEvents_eq_complete (mode : Mode) (events : List (Nat × Event)) :
    ofEvents mode events = complete mode empty events := ofReading_of_sound rfl mode

theorem complete_cons {mode : Mode} {event : Nat × Event} (h : step mode a event = .ok b)
    (rest : List (Nat × Event)) : complete mode a (event :: rest) = complete mode b rest := by
  rw [complete, List.foldlM_cons, h]
  rfl

theorem complete_append {mode : Mode} {events : List (Nat × Event)}
    (h : events.foldlM (step mode) a = .ok b) (rest : List (Nat × Event)) :
    complete mode a (events ++ rest) = complete mode b rest := by
  rw [complete, List.foldlM_append, h]
  rfl

/-- Both ways of reading make the same of this, and succeed. -/
def Alike (x y : Except MarkupError (List Node)) : Prop := ∃ top, x = .ok top ∧ y = .ok top

/-- What is still open at the end is closed. -/
theorem complete_endTags (solid : ∀ n ∈ a.openNames, isVoid n = false) (behind : Nat) :
    Alike (complete .lenient a []) (complete .strict a (endTags behind a.openNames)) := by
  have closed : (endTags behind a.openNames).foldlM (step .strict) a =
      .ok (leaveAll a.openNames.length a) :=
    foldlM_endTags a.openNames a (List.append_nil _).symm solid
  have all : (leaveAll a.openNames.length a).openNames = [] := by
    rw [openNames_leaveAll, List.drop_length]
  refine ⟨(leaveAll a.openNames.length a).siblings.reverse, ?_, ?_⟩
  · rw [openNames, List.length_map]
    rfl
  · rw [← List.append_nil (endTags behind a.openNames), complete_append closed]
    have none : (leaveAll a.openNames.length a).enclosing = [] := List.map_eq_nil_iff.mp all
    exact (finish_strict_of_nil all).trans (by rw [none, List.length_nil, leaveAll])

/-- An end tag that closes something, behind those of the elements inside, closes in the strict way
of reading what it closes alone in the lenient one. -/
theorem foldlM_repaired {inner outer : List String} (h : a.openNames = inner ++ name :: outer)
    (solid : ∀ n ∈ a.openNames, isVoid n = false) :
    (endTags position inner ++ [(position, Event.finish name)]).foldlM (step .strict) a =
      .ok (leaveAll (inner.length + 1) a) := by
  have closed : (endTags position inner).foldlM (step .strict) a = .ok (leaveAll inner.length a) :=
    foldlM_endTags inner a h fun n mem => solid n (h ▸ List.mem_append_left _ mem)
  have left : (leaveAll inner.length a).openNames = name :: outer := by
    rw [openNames_leaveAll, h, List.drop_left]
  have last : step .strict (leaveAll inner.length a) (position, .finish name) =
      .ok (leaveAll (inner.length + 1) a) := by
    rw [← leave_leaveAll]
    exact close_of_openNames (solid name (by simp [h])) left .strict
  rw [List.foldlM_append, closed]
  change [(position, Event.finish name)].foldlM (step .strict) _ = _
  rw [List.foldlM_cons, last]
  rfl

theorem complete_repairFrom (behind : Nat) (events : List (Nat × Event)) : ∀ a : Assembly,
    (∀ n ∈ a.openNames, isVoid n = false) →
    Alike (complete .lenient a events)
      (complete .strict a (repairFrom behind a.openNames events)) := by
  induction events with
  | nil => exact fun a solid => complete_endTags solid behind
  | cons event rest ih =>
    intro a solid
    obtain ⟨position, event⟩ := event
    cases event with
    | start name attributes =>
      by_cases void : isVoid name
      · have taken : ∀ mode, step mode a (position, .start name attributes) =
            .ok (a.leaf name attributes) := fun _ => by rw [step, if_pos void]
        rw [repairFrom, if_pos void, complete_cons (taken _), complete_cons (taken _)]
        exact ih _ solid
      · have taken : ∀ mode, step mode a (position, .start name attributes) =
            .ok (a.enter name attributes) := fun _ => by rw [step, if_neg void]
        rw [repairFrom, if_neg void, complete_cons (taken _), complete_cons (taken _)]
        exact ih (a.enter name attributes) (List.forall_mem_cons.mpr ⟨by simpa using void, solid⟩)
    | selfClosed name attributes =>
      rw [repairFrom, complete_cons rfl, complete_cons rfl]
      · exact ih (a.leaf name attributes) solid
      · simp
      · simp
    | text content =>
      rw [repairFrom, complete_cons rfl, complete_cons rfl, ← openNames_write a content]
      · exact ih (a.write content) (by rwa [openNames_write])
      · simp
      · simp
    | finish name =>
      by_cases dropped : isVoid name ∨ name ∉ a.openNames
      · have taken : step .lenient a (position, .finish name) = .ok a :=
          dropped.elim (close_of_void · .lenient a) close_lenient_of_not_mem
        rw [repairFrom, if_pos (by simpa using dropped), complete_cons taken]
        exact ih a solid
      · obtain ⟨full, mem⟩ := not_or.mp dropped
        rw [not_not] at mem
        have full : isVoid name = false := by simpa using full
        have parts := split_of_mem mem
        have taken : step .lenient a (position, .finish name) = _ := close_lenient_of_mem full mem
        have left := openNames_leaveAll_succ parts
        rw [repairFrom, if_neg (by simpa using ⟨full, mem⟩), complete_cons taken,
          List.append_cons, complete_append (foldlM_repaired parts solid), ← left]
        exact ih _ fun n h => solid n (List.mem_of_mem_drop (openNames_leaveAll _ a ▸ h))

/-- **Lenient recovery is strict reading of the repaired tags.** -/
theorem lenient_reads_repaired (behind : Nat) (events : List (Nat × Event)) :
    ∃ top, ofEvents .lenient events = .ok top ∧ ofEvents .strict (repair behind events) = .ok top := by
  rw [ofEvents_eq_complete, ofEvents_eq_complete]
  exact complete_repairFrom behind events empty (by simp [openNames, empty])

end Assembly

end Stencil
