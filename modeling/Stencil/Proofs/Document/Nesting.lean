import Stencil.Document.Read
import Stencil.Proofs.Document.Invariant
import Stencil.Proofs.Document.Outline

/-!
# Document — nesting

Every node of a document that was read records how deep it is nested (`Document.leveled_of_read`).
A tree under way keeps this at each of its levels, whatever is read next and however its elements
are closed (`Assembly.leveled_invariant`), and so does the way into normal form.
-/

namespace Stencil

open Markup

namespace Node

variable {level : Nat} {n : Node} {row row' rest : List Node}

/-- The nodes of a row and of what is below it record how deep they are nested, where the row itself
is at a level. -/
def Leveled (level : Nat) (row : List Node) : Prop := ∀ x ∈ walk level row, x.2.depth = x.1

@[simp] theorem leveled_nil : Leveled level [] := by simp [Leveled, walk]

theorem leveled_cons : Leveled level (n :: rest) ↔
    n.depth = level ∧ Leveled (level + 1) n.children ∧ Leveled level rest := by
  rw [Leveled, walk_cons, List.forall_mem_cons, List.forall_mem_append]
  rfl

/-- The trees of a row count one by one. -/
theorem leveled_iff_forall : Leveled level row ↔
    ∀ n ∈ row, n.depth = level ∧ Leveled (level + 1) n.children := by
  induction row with
  | nil => simp
  | cons n rest ih => rw [leveled_cons, List.forall_mem_cons, ih, and_assoc]

theorem Leveled.subset (h : Leveled level row) (sub : row' ⊆ row) : Leveled level row' :=
  leveled_iff_forall.mpr fun n mem => leveled_iff_forall.mp h n (sub mem)

theorem leveled_append : Leveled level (row ++ row') ↔ Leveled level row ∧ Leveled level row' := by
  rw [leveled_iff_forall, List.forall_mem_append, ← leveled_iff_forall, ← leveled_iff_forall]

theorem leveled_reverse (h : Leveled level row) : Leveled level row.reverse :=
  h.subset fun _ => List.mem_reverse.mp

theorem leveled_text {content : String} (h : Leveled level rest) :
    Leveled level (.text level content :: rest) :=
  leveled_cons.mpr ⟨rfl, leveled_nil, h⟩

theorem leveled_element {name : String} {attributes : List Attribute} {children : List Node}
    (inner : Leveled (level + 1) children) (h : Leveled level rest) :
    Leveled level (.element level name attributes children :: rest) :=
  leveled_cons.mpr ⟨rfl, inner, h⟩

@[simp] theorem depth_deepen (n : Node) : n.deepen.depth = n.depth + 1 := by
  cases n with
  | element d name attributes cs => rw [deepen]; rfl
  | text d content => rw [deepen]; rfl

@[simp] theorem children_deepen (n : Node) : n.deepen.children = n.children.map deepen := by
  cases n with
  | element d name attributes cs => rw [deepen]; rfl
  | text d content => rw [deepen]; rfl

/-- A row that is put one level deeper records so. -/
theorem leveled_deepen (row : List Node) :
    ∀ level, Leveled level row → Leveled (level + 1) (row.map deepen) := by
  induction row using row_induction with
  | nil => exact fun _ _ => leveled_nil
  | cons n rest ihc ih =>
    intro level h
    obtain ⟨here, inner, later⟩ := leveled_cons.mp h
    rw [List.map_cons, leveled_cons, depth_deepen, children_deepen]
    exact ⟨congrArg (· + 1) here, ihc (level + 1) inner, ih level later⟩

end Node

/-! ### Trees under way -/

namespace Assembly

variable {a : Assembly} {mode : Mode} {name : String} {attributes : List Attribute}

/-- What stands before each open element records the level of the element. -/
def LeveledAround : List OpenElement → Prop
  | [] => True
  | o :: outer => Node.Leveled outer.length o.earlier ∧ LeveledAround outer

/-- The nodes of a tree under way record how deep they are nested. -/
structure Leveled (a : Assembly) : Prop where
  siblings : Node.Leveled a.depth a.siblings
  around : LeveledAround a.enclosing

theorem leveled_empty : empty.Leveled := ⟨Node.leveled_nil, trivial⟩

theorem Leveled.leaf (h : a.Leveled) : (a.leaf name attributes).Leveled :=
  ⟨Node.leveled_element Node.leveled_nil h.siblings, h.around⟩

theorem Leveled.enter (h : a.Leveled) : (a.enter name attributes).Leveled :=
  ⟨Node.leveled_nil, h.siblings, h.around⟩

/-- A text that goes on with another one stands at its level. -/
theorem Leveled.write (h : a.Leveled) (content : String) : (a.write content).Leveled := by
  rw [Assembly.write]
  split
  · exact h
  · split
    · next d s earlier e =>
      have before := h.siblings
      rw [e, Node.leveled_cons] at before
      exact ⟨Node.leveled_cons.mpr before, h.around⟩
    · exact ⟨Node.leveled_text h.siblings, h.around⟩

/-- The children of an element that is closed were one level deeper. -/
theorem Leveled.leave (h : a.Leveled) : a.leave.Leveled := by
  rw [Assembly.leave]
  split
  · exact h
  · next o outer e =>
    -- the siblings at the innermost level become the children of the element that stood around them
    have around := h.around
    have inner := h.siblings
    rw [depth, e] at inner
    rw [e] at around
    exact ⟨Node.leveled_element (Node.leveled_reverse inner) around.1, around.2⟩

/-- **What is read keeps the levels of a tree under way.** -/
theorem leveled_invariant : Invariant Leveled where
  empty := leveled_empty
  leaf _ _ := Leveled.leaf
  enter _ _ := Leveled.enter
  write content h := h.write content
  leave := Leveled.leave

/-- The tree that is finished is at the top. -/
theorem leveled_ofReading {r : Reading} {top : List Node} (h : ofReading mode r = .ok top) :
    Node.Leveled 0 top := by
  obtain ⟨a, leveled, closed, rfl⟩ := leveled_invariant.finished h
  have siblings := leveled.siblings
  rw [depth, closed] at siblings
  exact Node.leveled_reverse siblings

end Assembly

/-! ### Normal form -/

namespace Document

variable {top children : List Node}

theorem leveled_withBody (h : Node.Leveled 1 children) : Node.Leveled 1 (withBody children) := by
  rw [withBody]
  split
  · exact h
  · split
    · next before first rest e =>
      -- a head stays where it is, with what stands before it; only what comes after it goes deeper
      have parts : children = before ++ first :: rest := by
        rw [List.span_eq_takeWhile_dropWhile, Prod.mk.injEq] at e
        rw [← e.1, ← e.2, List.takeWhile_append_dropWhile]
      split
      · rw [parts, Node.leveled_append, Node.leveled_cons] at h
        obtain ⟨early, here, inner, later⟩ := h
        refine Node.leveled_append.mpr ⟨early, Node.leveled_cons.mpr ⟨here, inner, ?_⟩⟩
        exact Node.leveled_element (Node.leveled_deepen rest 1 later) Node.leveled_nil
      · exact Node.leveled_element (Node.leveled_deepen children 1 h) Node.leveled_nil
    · exact Node.leveled_element (Node.leveled_deepen children 1 h) Node.leveled_nil

theorem leveled_completed (h : Node.Leveled 0 top) : Node.Leveled 0 (top.map completed) := by
  rw [Node.leveled_iff_forall, List.forall_mem_map]
  intro n mem
  obtain ⟨here, inner⟩ := Node.leveled_iff_forall.mp h n mem
  cases n with
  | element d name attributes cs => exact ⟨here, leveled_withBody inner⟩
  | text d content => exact ⟨here, inner⟩

theorem leveled_wrapped (h : Node.Leveled 0 top) :
    Node.Leveled 0 [.element 0 "html" [] (withBody (top.map Node.deepen))] :=
  Node.leveled_element (leveled_withBody (Node.leveled_deepen top 0 h)) Node.leveled_nil

theorem leveled_normalized (h : Node.Leveled 0 top) : Node.Leveled 0 (normalized top) := by
  rw [normalized]
  split
  · exact h
  · split
    · exact leveled_completed h
    · exact leveled_wrapped h
  · exact leveled_wrapped h

/-- **The nodes of a document that was read record how deep they are nested.** -/
theorem leveled_of_read {source : String} {mode : Mode} {d : Document}
    (h : read source mode = .ok d) : Node.Leveled 0 d.top := by
  obtain ⟨top, assembled, rfl⟩ := ok_of_map h
  exact leveled_normalized (Assembly.leveled_ofReading assembled)

end Document

end Stencil
