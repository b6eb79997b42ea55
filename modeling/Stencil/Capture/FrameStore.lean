import Stencil.Capture.Scope

/-!
# Capture — Frame store

Stacks of frames as they lie in memory. A copy of a stack holds the frames of the stack itself, and
they are shared until one side writes: it writes to a copy of the frame, unless nothing else holds
the frame. What can be done with stacks is told by commands, which are carried out on stacks that
share frames, or on scopes, none of which has a part in another one.
-/

namespace Stencil

/-- A stack by the places of its frames: that of the innermost one, and those of the others from it
outward. -/
structure Holder where
  innermost : Nat
  outer : List Nat
  deriving DecidableEq, Repr

/-- The places of the frames from the innermost outward. -/
def Holder.places (h : Holder) : List Nat := h.innermost :: h.outer

/-- Frames, and the stacks that hold them by their places. -/
structure FrameStore where
  frames : List Frame
  holders : List Holder
  held : ∀ h ∈ holders, ∀ i ∈ h.places, i < frames.length

/-- What can be done with stacks, which go by their numbers. -/
inductive StackCommand where
  | fresh
  | push (stack : Nat)
  | assign (stack : Nat) (name value : String)
  | clone (stack : Nat)
  | merge (stack other : Nat)
  | drop (stack : Nat)
  deriving DecidableEq, Repr

namespace FrameStore

/-- No frame and no stack. -/
def empty : FrameStore := ⟨[], [], by simp⟩

/-- The frame at a place. -/
def frame (m : FrameStore) (i : Nat) : Frame := (m.frames[i]?).getD .empty

/-- The number of times that a frame is held. -/
def count (m : FrameStore) (i : Nat) : Nat := (m.holders.flatMap Holder.places).count i

/-- A new frame becomes the innermost one of a stack, around which are these others. -/
def hold (m : FrameStore) (s : Nat) (frame : Frame) (outer : List Nat)
    (lies : ∀ i ∈ outer, i < m.frames.length) : FrameStore where
  frames := m.frames ++ [frame]
  holders := m.holders.set s ⟨m.frames.length, outer⟩
  held h mem i inside := by
    rw [List.length_append, List.length_singleton]
    rcases List.mem_or_eq_of_mem_set mem with mem | rfl
    · exact Nat.lt_succ_of_lt (m.held h mem i inside)
    · rcases List.mem_cons.mp inside with rfl | inside
      · exact Nat.lt_succ_self _
      · exact Nat.lt_succ_of_lt (lies i inside)

/-- A frame is changed where it lies. -/
def change (m : FrameStore) (i : Nat) (f : Frame → Frame) : FrameStore where
  frames := m.frames.modify i f
  holders := m.holders
  held := by simpa using m.held

/-- A stack with one empty frame is added. -/
def addFresh (m : FrameStore) : FrameStore where
  frames := m.frames ++ [.empty]
  holders := m.holders ++ [⟨m.frames.length, []⟩]
  held h mem i inside := by
    rw [List.length_append, List.length_singleton]
    rcases List.mem_append.mp mem with mem | mem
    · exact Nat.lt_succ_of_lt (m.held h mem i inside)
    · rw [List.mem_singleton.mp mem, Holder.places, List.mem_singleton] at inside
      exact inside ▸ Nat.lt_succ_self _

/-- An empty frame is put inside of a stack. -/
def push (m : FrameStore) (s : Nat) : FrameStore :=
  if h : s < m.holders.length then
    m.hold s .empty m.holders[s].places (m.held _ (List.getElem_mem h))
  else m

/-- The innermost frame of a stack is changed: where it lies if nothing else holds it, and otherwise
the stack gets a frame of its own. -/
def write (m : FrameStore) (s : Nat) (f : Frame → Frame) : FrameStore :=
  if h : s < m.holders.length then
    if m.count m.holders[s].innermost = 1 then m.change m.holders[s].innermost f
    else
      m.hold s (f (m.frame m.holders[s].innermost)) m.holders[s].outer fun i inside =>
        m.held _ (List.getElem_mem h) i (List.mem_cons_of_mem _ inside)
  else m

/-- A copy of a stack is added, which holds the same frames. -/
def clone (m : FrameStore) (s : Nat) : FrameStore where
  frames := m.frames
  holders := m.holders ++ (m.holders[s]?).toList
  held h mem := by
    rcases List.mem_append.mp mem with mem | mem
    · exact m.held h mem
    · exact m.held h (List.mem_of_getElem? (Option.mem_toList.mp mem))

/-- The bindings of the innermost frame of another stack are put into that of a stack. Nothing is
written if there are none, or if both stacks hold one frame. -/
def merge (m : FrameStore) (s other : Nat) : FrameStore :=
  match m.holders[s]?, m.holders[other]? with
  | some target, some source =>
    if (m.frame source.innermost).toList.isEmpty ∨ source.innermost = target.innermost then m
    else m.write s (·.merge (m.frame source.innermost))
  | _, _ => m

/-- A stack is given up. -/
def drop (m : FrameStore) (s : Nat) : FrameStore where
  frames := m.frames
  holders := m.holders.eraseIdx s
  held h mem := m.held h (List.mem_of_mem_eraseIdx mem)

/-- A command is carried out. Nothing is done where there is no stack of a number. -/
def step (m : FrameStore) : StackCommand → FrameStore
  | .fresh => m.addFresh
  | .push s => m.push s
  | .assign s name value => m.write s (·.insert name value)
  | .clone s => m.clone s
  | .merge s other => m.merge s other
  | .drop s => m.drop s

/-- Commands are carried out one after the other, from nothing on. -/
def run (commands : List StackCommand) : FrameStore := commands.foldl step empty

/-- What a stack is as a scope. -/
def scope (m : FrameStore) (h : Holder) : Scope := ⟨m.frame h.innermost, h.outer.map m.frame⟩

/-- The stacks as scopes. -/
def scopes (m : FrameStore) : List Scope := m.holders.map m.scope

end FrameStore

namespace Scope

/-- A command is carried out on scopes. -/
def step (scopes : List Scope) : StackCommand → List Scope
  | .fresh => scopes ++ [fresh]
  | .push s => scopes.modify s push
  | .assign s name value => scopes.modify s (·.assign name value)
  | .clone s => scopes ++ (scopes[s]?).toList
  | .merge s other =>
    match scopes[other]? with
    | some source => scopes.modify s (·.mergeInnermost source)
    | none => scopes
  | .drop s => scopes.eraseIdx s

/-- Commands are carried out on scopes one after the other, from nothing on. -/
def run (commands : List StackCommand) : List Scope := commands.foldl step []

end Scope

end Stencil
