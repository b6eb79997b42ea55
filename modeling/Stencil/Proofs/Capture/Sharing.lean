import Mathlib.Data.List.InsertIdx
import Stencil.Capture.FrameStore
import Stencil.Proofs.Capture.Scope

/-!
# Capture — shared frames

That stacks share frames does not show: commands make of them what they make of scopes that have all
their frames for themselves (`FrameStore.scopes_run`). A frame that is changed where it lies is held
once, and any other change is one of a copy.
-/

namespace Stencil

namespace NameMap

variable {α : Type}

@[simp] theorem merge_self (m : NameMap α) : m.merge m = m :=
  ext_get? fun n => by rw [get?_merge, Option.or_self]

theorem eq_empty_of_isEmpty {m : NameMap α} (h : m.toList.isEmpty) : m = empty :=
  ext_toList (List.isEmpty_iff.mp h)

end NameMap

namespace FrameStore

variable {m m' : FrameStore} {s other i : Nat} {h : Holder}

/-! ### Frames and holders -/

theorem frame_congr (same : m'.frames[i]? = m.frames[i]?) : m'.frame i = m.frame i := by
  rw [frame, frame, same]

/-- A stack is the same scope where its frames are the same. -/
theorem scope_congr (same : ∀ i ∈ h.places, m'.frames[i]? = m.frames[i]?) :
    m'.scope h = m.scope h := by
  obtain ⟨inner, around⟩ := List.forall_mem_cons.mp same
  rw [scope, scope, frame_congr inner,
    List.map_congr_left fun i inside => frame_congr (around i inside)]

/-- Frames that are added do not touch a stack that is there. -/
theorem scope_of_grown {added : List Frame} (grown : m'.frames = m.frames ++ added)
    (mem : h ∈ m.holders) : m'.scope h = m.scope h :=
  scope_congr fun i inside => by rw [grown, List.getElem?_append_left (m.held h mem i inside)]

@[simp] theorem length_scopes (m : FrameStore) : m.scopes.length = m.holders.length := List.length_map _

theorem getElem?_scopes (m : FrameStore) (s : Nat) :
    m.scopes[s]? = m.holders[s]?.map m.scope := List.getElem?_map ..

/-- A frame that is held once is held by one stack, and by it once. -/
theorem held_once {before after : List Holder}
    (once : ((before ++ h :: after).flatMap Holder.places).count i = 1) (mem : i ∈ h.places) :
    (∀ k ∈ before ++ after, i ∉ k.places) ∧ h.places.count i = 1 := by
  have here : 0 < h.places.count i := List.count_pos_iff.mpr mem
  rw [List.flatMap_append, List.flatMap_cons, List.count_append, List.count_append] at once
  have others : i ∉ (before ++ after).flatMap Holder.places := by
    rw [List.flatMap_append, ← List.count_eq_zero, List.count_append]
    omega
  exact ⟨fun k among inside => others (List.mem_flatMap.mpr ⟨k, among, inside⟩), by omega⟩

/-- What is changed where it lies is changed for the stack that alone holds it. -/
theorem scopes_change {before after : List Holder} (split : m.holders = before ++ h :: after)
    (once : m.count h.innermost = 1) (f : Frame → Frame) :
    (m.change h.innermost f).scopes =
      before.map m.scope ++ ⟨f (m.frame h.innermost), h.outer.map m.frame⟩ :: after.map m.scope := by
  rw [count, split] at once
  obtain ⟨others, here⟩ := held_once once List.mem_cons_self
  have apart : h.innermost ∉ h.outer := by
    rw [Holder.places, List.count_cons_self, Nat.add_eq_right] at here
    exact List.count_eq_zero.mp here
  have kept {i : Nat} (ne : h.innermost ≠ i) :
      (m.change h.innermost f).frames[i]? = m.frames[i]? := List.getElem?_modify_ne _ _ ne
  have same : ∀ k ∈ before ++ after, (m.change h.innermost f).scope k = m.scope k := fun k mem =>
    scope_congr fun i inside => kept fun eq => others k mem (eq ▸ inside)
  have around : h.outer.map (m.change h.innermost f).frame = h.outer.map m.frame :=
    List.map_congr_left fun i inside => frame_congr (kept fun eq => apart (eq ▸ inside))
  have bound : h.innermost < m.frames.length :=
    m.held h (by simp [split]) h.innermost List.mem_cons_self
  have changed : (m.change h.innermost f).frame h.innermost = f (m.frame h.innermost) := by
    simp [frame, change, bound]
  change m.holders.map _ = _
  rw [split, List.map_append, List.map_cons,
    List.map_congr_left fun k mem => same k (List.mem_append_left _ mem),
    List.map_congr_left fun k mem => same k (List.mem_append_right _ mem), scope, changed, around]

/-- A frame of its own for one stack does not touch the others. -/
theorem scopes_hold {frame : Frame} {outer : List Nat} (lies : ∀ i ∈ outer, i < m.frames.length) :
    (m.hold s frame outer lies).scopes = m.scopes.set s ⟨frame, outer.map m.frame⟩ := by
  have same : ∀ k ∈ m.holders, (m.hold s frame outer lies).scope k = m.scope k := fun _ mem =>
    scope_of_grown rfl mem
  have around : outer.map (m.hold s frame outer lies).frame = outer.map m.frame :=
    List.map_congr_left fun i inside => frame_congr (List.getElem?_append_left (lies i inside))
  have new : (m.hold s frame outer lies).frame m.frames.length = frame := by
    simp [FrameStore.frame, hold]
  change (m.holders.set s ⟨m.frames.length, outer⟩).map _ = _
  rw [List.map_set, scope, new, around, List.map_congr_left same]
  rfl

/-! ### Commands -/

/-- **What a stack writes shows in this stack alone**, whether the frame was its own or shared. -/
theorem scopes_write (m : FrameStore) (s : Nat) (f : Frame → Frame) :
    (m.write s f).scopes = m.scopes.modify s fun σ => { σ with innermost := f σ.innermost } := by
  by_cases bound : s < m.holders.length
  · have listed : s < m.scopes.length := by simpa using bound
    have here : m.scopes[s] = m.scope m.holders[s] := List.getElem_map _
    rw [write, dif_pos bound]
    split
    · next once =>
      have split : m.holders = m.holders.take s ++ m.holders[s] :: m.holders.drop (s + 1) := by
        rw [List.getElem_cons_drop, List.take_append_drop]
      rw [scopes_change split once, List.modify_eq_take_cons_drop listed, here]
      simp [scopes, scope]
    · rw [scopes_hold, List.modify_eq_set_getElem?, getElem?_scopes, List.getElem?_eq_getElem bound]
      rfl
  · rw [write, dif_neg bound, List.modify_eq_self (by simpa using bound)]

theorem scopes_push (m : FrameStore) (s : Nat) :
    (m.push s).scopes = m.scopes.modify s Scope.push := by
  by_cases bound : s < m.holders.length
  · rw [push, dif_pos bound, scopes_hold, List.modify_eq_set_getElem?, getElem?_scopes,
      List.getElem?_eq_getElem bound]
    rfl
  · rw [push, dif_neg bound, List.modify_eq_self (by simpa using bound)]

theorem scopes_addFresh (m : FrameStore) : m.addFresh.scopes = m.scopes ++ [.fresh] := by
  have same : ∀ k ∈ m.holders, m.addFresh.scope k = m.scope k := fun _ mem =>
    scope_of_grown rfl mem
  have new : m.addFresh.frame m.frames.length = .empty := by simp [frame, addFresh]
  change (m.holders ++ [_]).map _ = _
  rw [List.map_append, List.map_congr_left same, List.map_singleton, scope, new]
  rfl

/-- **A merge that writes nothing is one that would change nothing.** -/
theorem scopes_merge (m : FrameStore) (s other : Nat) :
    (m.merge s other).scopes = Scope.step m.scopes (.merge s other) := by
  rw [merge, Scope.step, getElem?_scopes]
  cases target : m.holders[s]? with
  | none =>
    have beyond : m.scopes.length ≤ s := by simpa using List.getElem?_eq_none_iff.mp target
    cases m.holders[other]? with
    | none => rfl
    | some source => exact (List.modify_eq_self beyond).symm
  | some h =>
    cases m.holders[other]? with
    | none => rfl
    | some source =>
      have here : m.scopes[s]? = some (m.scope h) := by rw [getElem?_scopes, target, Option.map_some]
      dsimp only [Option.map_some]
      split
      · next nothing =>
        have same : (m.scope h).mergeInnermost (m.scope source) = m.scope h := by
          rw [Scope.mergeInnermost]
          rcases nothing with none | shared
          · rw [scope, scope, NameMap.eq_empty_of_isEmpty none, NameMap.merge_empty]
          · rw [scope, scope, shared, NameMap.merge_self]
        obtain ⟨bound, eq⟩ := List.getElem?_eq_some_iff.mp here
        rw [List.modify_eq_set_getElem?, here]
        change m.scopes = m.scopes.set s _
        rw [same, ← eq, List.set_getElem_self]
      · exact m.scopes_write s _

/-- **A command makes of stacks that share frames what it makes of scopes.** -/
theorem scopes_step (m : FrameStore) (command : StackCommand) :
    (m.step command).scopes = Scope.step m.scopes command := by
  cases command with
  | fresh => exact m.scopes_addFresh
  | push s => exact m.scopes_push s
  | assign s name value => exact m.scopes_write s _
  | clone s =>
    change (m.holders ++ _).map _ = _
    rw [List.map_append, Scope.step, getElem?_scopes]
    cases m.holders[s]? with
    | none => rfl
    | some h => rfl
  | merge s other => exact m.scopes_merge s other
  | drop s => exact (List.eraseIdx_map _ _ _).symm

theorem scopes_foldl (commands : List StackCommand) : ∀ m : FrameStore,
    (commands.foldl step m).scopes = commands.foldl Scope.step m.scopes := by
  induction commands with
  | nil => exact fun _ => rfl
  | cons command rest ih =>
    intro m
    rw [List.foldl_cons, List.foldl_cons, ih, scopes_step]

/-- **That frames are shared does not show.** -/
theorem scopes_run (commands : List StackCommand) : (run commands).scopes = Scope.run commands :=
  scopes_foldl commands empty

end FrameStore

end Stencil
