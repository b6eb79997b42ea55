import Stencil.Capture.Scope
import Stencil.Proofs.Capture.NameMap

/-!
# Capture — scopes on top of scopes

What is bound from a fresh scope on can be put on top of any scope (`Scope.onto`): the frames that
were pushed stay as they are, and the frame that was there from the start goes into the innermost
frame of the scope below. Pushing, assigning and merging on top are the same as on the whole
(`Scope.push_onto`, `Scope.assign_onto`, `Scope.mergeInnermost_onto`), so no operation tells what
is below. A look-up finds what is on top first (`Scope.get?_onto`).
-/

namespace Stencil

namespace Scope

variable {s top δ ε : Scope} {f : Frame} {name value : String}

/-- A frame inside a scope. -/
def inside (f : Frame) (s : Scope) : Scope := ⟨f, s.frames⟩

/-- Induction over scopes from the outermost frame inward. -/
@[elab_as_elim]
theorem frame_induction {P : Scope → Prop} (single : ∀ f, P ⟨f, []⟩)
    (inside : ∀ f s, P s → P (inside f s)) (s : Scope) : P s := by
  obtain ⟨f, outer⟩ := s
  induction outer generalizing f with
  | nil => exact single f
  | cons g outer ih => exact inside f ⟨g, outer⟩ (ih g)

/-- Frames, the innermost first, on top of a scope. The last of them goes into the innermost frame
of the scope. -/
def stack (s : Scope) : Frame → List Frame → Scope
  | f, [] => { s with innermost := s.innermost.merge f }
  | f, g :: outer => inside f (stack s g outer)

/-- The first scope on top of the second one. -/
def onto (top s : Scope) : Scope := s.stack top.innermost top.outer

@[simp] theorem single_onto (f : Frame) (s : Scope) :
    (⟨f, []⟩ : Scope).onto s = { s with innermost := s.innermost.merge f } := rfl

@[simp] theorem inside_onto (f : Frame) (top s : Scope) :
    (inside f top).onto s = inside f (top.onto s) := rfl

@[simp] theorem push_onto (top s : Scope) : top.push.onto s = (top.onto s).push := rfl

@[simp] theorem fresh_onto (s : Scope) : fresh.onto s = s := rfl

/-! ### Operations on top of a scope -/

theorem assign_onto (top s : Scope) (name value : String) :
    (top.assign name value).onto s = (top.onto s).assign name value := by
  cases top using frame_induction with
  | single f => simp [assign, NameMap.merge_insert]
  | inside f top => rfl

theorem mergeInnermost_onto (top other s : Scope) :
    (top.mergeInnermost other).onto s = (top.onto s).mergeInnermost other := by
  cases top using frame_induction with
  | single f => simp [mergeInnermost, NameMap.merge_assoc]
  | inside f top => rfl

/-- What is made on top of a scope is merged back into it as if it had been made for itself. -/
theorem mergeInnermost_self_onto (top s : Scope) :
    s.mergeInnermost (top.onto s) = s.mergeInnermost top := by
  cases top using frame_induction with
  | single f => simp [mergeInnermost]
  | inside f top => rfl

/-! ### The outermost frame -/

/-- The frame that was there from the start. -/
def outermost (s : Scope) : Frame := s.outer.getLastD s.innermost

@[simp] theorem outermost_inside (f : Frame) (s : Scope) :
    (inside f s).outermost = s.outermost := List.getLastD_cons

@[simp] theorem outermost_push (s : Scope) : s.push.outermost = s.outermost :=
  outermost_inside .empty s

/-- What is put on top of a frame inside a scope does not reach the scope. -/
theorem outermost_onto_inside (top : Scope) (f : Frame) (s : Scope) :
    (top.onto (inside f s)).outermost = s.outermost := by
  induction top using frame_induction with
  | single g => exact outermost_inside (f.merge g) s
  | inside g top ih => rw [inside_onto, outermost_inside, ih]

/-- The frames of one scope on top of another one: those that were pushed, then the innermost frame
of the scope below with the outermost one of the other put into it, then those around. -/
theorem frames_onto (top s : Scope) :
    ∃ pushed, (top.onto s).frames = pushed ++ s.innermost.merge top.outermost :: s.outer := by
  induction top using frame_induction with
  | single f => exact ⟨[], rfl⟩
  | inside f top ih =>
    obtain ⟨pushed, frames⟩ := ih
    exact ⟨f :: pushed, by rw [inside_onto, outermost_inside, List.cons_append, ← frames]; rfl⟩

theorem get?_outermost_assign (s : Scope) (value : String) {n : String} (other : n ≠ name) :
    (s.assign name value).outermost.get? n = s.outermost.get? n := by
  cases s using frame_induction with
  | single f =>
    change (f.insert name value).get? n = f.get? n
    rw [NameMap.get?_insert, if_neg other]
  | inside f s =>
    change (inside (f.insert name value) s).outermost.get? n = _
    rw [outermost_inside, outermost_inside]

theorem get?_outermost_mergeInnermost (s : Scope) {other : Scope} {n : String}
    (free : other.innermost.get? n = none) :
    (s.mergeInnermost other).outermost.get? n = s.outermost.get? n := by
  cases s using frame_induction with
  | single f =>
    change (f.merge other.innermost).get? n = f.get? n
    rw [NameMap.get?_merge, free, Option.none_or]
  | inside f s =>
    change (inside (f.merge other.innermost) s).outermost.get? n = _
    rw [outermost_inside, outermost_inside]

/-! ### Look-up -/

theorem get?_eq (s : Scope) (name : String) :
    s.get? name = (s.innermost.get? name).or (s.outer.findSome? (·.get? name)) := by
  rw [get?, frames, List.findSome?_cons]
  cases s.innermost.get? name with
  | none => rfl
  | some value => rfl

theorem get?_inside (f : Frame) (s : Scope) (name : String) :
    (inside f s).get? name = (f.get? name).or (s.get? name) := get?_eq _ name

/-- **What is bound on top of a scope comes first.** -/
theorem get?_onto (top s : Scope) (name : String) :
    (top.onto s).get? name = (top.get? name).or (s.get? name) := by
  induction top using frame_induction with
  | single f =>
    rw [single_onto, get?_eq, get?_eq, get?_eq s, NameMap.get?_merge, List.findSome?_nil,
      Option.or_none, Option.or_assoc]
  | inside f top ih => rw [inside_onto, get?_inside, get?_inside, ih, Option.or_assoc]

/-- **What is merged into the innermost frame comes first.** -/
theorem get?_mergeInnermost (s other : Scope) (name : String) :
    (s.mergeInnermost other).get? name = (other.innermost.get? name).or (s.get? name) := by
  rw [get?_eq, get?_eq s, mergeInnermost, NameMap.get?_merge, Option.or_assoc]

/-! ### Names that show in the innermost frame -/

/-- What shows of a name is what the innermost frame binds it to, if anything. -/
def OnTop (name : String) (s : Scope) : Prop := s.innermost.get? name = s.get? name

theorem onTop_of_get?_eq_none (h : s.get? name = none) : s.OnTop name := by
  have parts := h
  rw [get?_eq, Option.or_eq_none_iff] at parts
  rw [OnTop, parts.1, h]

theorem onTop_fresh : fresh.OnTop name := onTop_of_get?_eq_none rfl

theorem OnTop.assign (h : s.OnTop name) (n value : String) : (s.assign n value).OnTop name := by
  rw [OnTop, get?_eq] at h ⊢
  rw [Scope.assign, NameMap.get?_insert]
  split
  · rfl
  · exact h

theorem OnTop.mergeInnermost (h : s.OnTop name) (other : Scope) :
    (s.mergeInnermost other).OnTop name := by
  rw [OnTop] at h
  rw [OnTop, get?_mergeInnermost, Scope.mergeInnermost, NameMap.get?_merge, h]

/-- What shows in the innermost frame of a scope shows there on top of another one, if no frame is
put between, or the other one does not bind the name. -/
theorem OnTop.onto (ht : top.OnTop name) (hs : s.OnTop name)
    (apart : top.outer = [] ∨ s.get? name = none) : (top.onto s).OnTop name := by
  rw [OnTop] at ht hs
  rw [OnTop, get?_onto, ← ht]
  cases top using frame_induction with
  | single f =>
    rw [← hs]
    exact NameMap.get?_merge s.innermost f name
  | inside f top =>
    have unbound : s.get? name = none := apart.resolve_left (List.cons_ne_nil _ _)
    rw [unbound, Option.or_none]
    rfl

/-- **A merge shows what a whole scope on top would show**, but for names that it binds below its
innermost frame alone, to something else than what shows without it. -/
theorem get?_mergeInnermost_eq_iff (s top : Scope) (name : String) :
    (s.mergeInnermost top).get? name = (top.onto s).get? name ↔
      top.OnTop name ∨ top.get? name = s.get? name := by
  rw [get?_mergeInnermost, get?_onto, OnTop]
  cases e : top.innermost.get? name with
  | some value =>
    have shown : top.get? name = some value := by rw [get?_eq, e, Option.some_or]
    simp [shown]
  | none =>
    cases top.get? name with
    | none => simp
    | some value => simp [eq_comm]

end Scope

end Stencil
