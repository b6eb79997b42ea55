import Mathlib.Data.List.Infix
import Stencil.Matching.Attempt

/-!
# Matching — document order

The positions of a row of siblings and of all that is below it, in document order
(`Site.positions`); later ones have fewer nodes (`Site.eq_or_sizes_lt_of_mem`). The nodes of a row
stand where their paths tell (`Site.Rooted`): so two positions of one path are the same
(`Site.Rooted.eq_of_path`).
-/

namespace Stencil

namespace Site

/-- The children of an element; a text has none. -/
def children : Site → List Site
  | element _ _ cs => cs
  | text _ _ => []

@[simp] theorem children_element (place : Place) (name : String) (cs : List Site) :
    (element place name cs).children = cs := rfl
@[simp] theorem children_text (place : Place) (content : String) :
    (text place content).children = [] := rfl

theorem sizes_cons (s : Site) (rest : List Site) :
    sizes (s :: rest) = sizes s.children + 1 + sizes rest := by
  cases s with
  | element place name cs => rw [sizes, size, children]
  | text place content => rw [sizes, size, children, sizes]

/-- Induction over rows of siblings: a node comes with its children and with the siblings after
it. -/
@[elab_as_elim]
theorem row_induction {P : List Site → Prop} (nil : P [])
    (cons : ∀ s rest, P s.children → P rest → P (s :: rest)) (row : List Site) : P row :=
  match row with
  | [] => nil
  | s :: rest => cons s rest (row_induction nil cons s.children) (row_induction nil cons rest)
termination_by sizes row
decreasing_by all_goals rw [sizes_cons]; omega

/-! ### Positions -/

mutual

/-- The positions below a node, in document order. -/
def inner : Site → List Position
  | element _ _ cs => positions cs
  | text _ _ => []

/-- The positions of a row of siblings and of what is below it, in document order. -/
def positions : List Site → List Position
  | [] => []
  | s :: rest => (s :: rest) :: (s.inner ++ positions rest)

end

variable {s t : Site} {rest after row : List Site} {x y z : Position}

theorem inner_eq (s : Site) : s.inner = positions s.children := by
  cases s with
  | element place name cs => rw [inner, children]
  | text place content => rw [inner, children, positions]

theorem positions_cons (s : Site) (rest : List Site) :
    positions (s :: rest) = (s :: rest) :: (positions s.children ++ positions rest) := by
  rw [positions, inner_eq]

theorem mem_positions_cons :
    y ∈ positions (s :: rest) ↔ y = s :: rest ∨ y ∈ positions s.children ∨ y ∈ positions rest := by
  rw [positions_cons, List.mem_cons, List.mem_append]

@[simp] theorem not_mem_positions_nil : y ∉ positions [] := by simp [positions]

theorem mem_positions_self (s : Site) (rest : List Site) : s :: rest ∈ positions (s :: rest) :=
  mem_positions_cons.mpr (.inl rfl)

theorem mem_positions_of_children (h : y ∈ positions s.children) : y ∈ positions (s :: rest) :=
  mem_positions_cons.mpr (.inr (.inl h))

theorem mem_positions_of_tail (h : y ∈ positions rest) : y ∈ positions (s :: rest) :=
  mem_positions_cons.mpr (.inr (.inr h))

theorem mem_positions_of_suffix (h : x <:+ y) (hz : z ∈ positions x) : z ∈ positions y := by
  obtain ⟨before, rfl⟩ := h
  induction before with
  | nil => exact hz
  | cons s before ih => exact mem_positions_of_tail ih

theorem length_positions (row : List Site) : (positions row).length = sizes row := by
  induction row using row_induction with
  | nil => rfl
  | cons s rest ihc ih =>
    rw [positions_cons, List.length_cons, List.length_append, ihc, ih, sizes_cons]
    omega

/-- **Later positions have fewer nodes.** -/
theorem eq_or_sizes_lt_of_mem (h : y ∈ positions row) : y = row ∨ sizes y < sizes row := by
  induction row using row_induction with
  | nil => exact absurd h not_mem_positions_nil
  | cons s rest ihc ih =>
    rw [sizes_cons]
    rcases mem_positions_cons.mp h with here | h | h
    · exact .inl here
    · right
      rcases ihc h with rfl | less <;> omega
    · right
      rcases ih h with rfl | less <;> omega

theorem sizes_le_of_suffix (h : x <:+ y) : sizes x ≤ sizes y := by
  obtain ⟨before, rfl⟩ := h
  induction before with
  | nil => exact Nat.le_refl _
  | cons s before ih =>
    rw [List.cons_append, sizes_cons]
    omega

/-- The positions from a position on are a stretch of those of the whole row. -/
theorem positions_infix_of_mem (h : y ∈ positions row) : positions y <:+: positions row := by
  induction row using row_induction with
  | nil => exact absurd h not_mem_positions_nil
  | cons s rest ihc ih =>
    rcases mem_positions_cons.mp h with rfl | h | h
    · exact List.infix_rfl
    · rw [positions_cons]
      exact ((ihc h).trans (List.prefix_append _ _).isInfix).trans (List.suffix_cons _ _).isInfix
    · rw [positions_cons]
      exact ((ih h).trans (List.suffix_append _ _).isInfix).trans (List.suffix_cons _ _).isInfix

theorem mem_positions_trans (hy : y ∈ positions x) (hz : z ∈ positions y) : z ∈ positions x :=
  (positions_infix_of_mem hy).subset hz

/-- A position that lies in a suffix of a row and on the row is on the suffix. -/
theorem suffix_of_mem (mem : y ∈ positions x) (hx : x <:+ z) (hy : y <:+ z) : y <:+ x := by
  rcases List.suffix_or_suffix_of_suffix hx hy with longer | shorter
  · rcases eq_or_sizes_lt_of_mem mem with rfl | less
    · exact List.suffix_refl y
    · exact absurd less (Nat.not_lt.mpr (sizes_le_of_suffix longer))
  · exact shorter

/-! ### Paths -/

/-- The nodes of a row stand at a path, one after the other from an index on; and so do those
below them. -/
inductive Rooted : List Nat → Nat → List Site → Prop
  | nil {parent : List Nat} {index : Nat} : Rooted parent index []
  | cons {parent : List Nat} {index : Nat} {s : Site} {rest : List Site} :
      s.place.path = parent ++ [index] → Rooted (parent ++ [index]) 0 s.children →
      Rooted parent (index + 1) rest → Rooted parent index (s :: rest)

namespace Rooted

variable {parent : List Nat} {index : Nat}

/-- The path of a node of a row goes on from the path of the row, over an index of the row. -/
theorem path_of_mem (h : Rooted parent index row) (hy : t :: after ∈ positions row) :
    ∃ i path, t.place.path = parent ++ i :: path ∧ index ≤ i := by
  induction h with
  | nil => exact absurd hy not_mem_positions_nil
  | @cons parent index s rest place _ _ ihc ih =>
    rcases mem_positions_cons.mp hy with here | hy | hy
    · cases here
      exact ⟨index, [], place, Nat.le_refl index⟩
    · obtain ⟨i, path, eq, -⟩ := ihc hy
      exact ⟨index, i :: path, by rw [eq, List.append_assoc]; rfl, Nat.le_refl index⟩
    · obtain ⟨i, path, eq, le⟩ := ih hy
      exact ⟨i, path, eq, by omega⟩

/-- A node below the first one of a row does not stand where this one does. -/
theorem path_ne_of_mem_children (h : Rooted parent index (s :: rest))
    (hy : t :: after ∈ positions s.children) : t.place.path ≠ s.place.path := by
  cases h with
  | cons place below _ =>
    obtain ⟨i, path, eq, -⟩ := below.path_of_mem hy
    rw [eq, place]
    simp

/-- A node after the first one of a row does not stand where this one does. -/
theorem path_ne_of_mem_tail (h : Rooted parent index (s :: rest))
    (hy : t :: after ∈ positions rest) : t.place.path ≠ s.place.path := by
  cases h with
  | cons place _ later =>
    obtain ⟨i, path, eq, le⟩ := later.path_of_mem hy
    rw [eq, place]
    intro same
    have : i = index := by simp_all
    omega

/-- A node after the first one of a row does not stand where one below this one does. -/
theorem path_ne_of_mem_both {t' : Site} {after' : List Site} (h : Rooted parent index (s :: rest))
    (hy : t :: after ∈ positions s.children) (hy' : t' :: after' ∈ positions rest) :
    t.place.path ≠ t'.place.path := by
  cases h with
  | cons place below later =>
    obtain ⟨i, path, eq, -⟩ := below.path_of_mem hy
    obtain ⟨i', path', eq', le⟩ := later.path_of_mem hy'
    rw [eq, eq']
    intro same
    have : index = i' := by simp_all
    omega

/-- A position below the first node of a row is not on the row. -/
theorem not_suffix_of_mem_children (h : Rooted parent index (s :: rest))
    (hy : t :: after ∈ positions s.children) : ¬ t :: after <:+ s :: rest := by
  intro suffix
  rcases List.suffix_cons_iff.mp suffix with same | late
  · cases same
    exact h.path_ne_of_mem_children hy rfl
  · exact h.path_ne_of_mem_both hy
      (mem_positions_of_suffix late (mem_positions_self t after)) rfl

theorem of_suffix (h : Rooted parent index row) (hx : x <:+ row) :
    ∃ index, Rooted parent index x := by
  obtain ⟨before, rfl⟩ := hx
  induction before generalizing index with
  | nil => exact ⟨index, h⟩
  | cons s before ih =>
    cases h with
    | cons _ _ later => exact ih later

theorem of_mem (h : Rooted parent index row) (hy : y ∈ positions row) :
    ∃ parent index, Rooted parent index y := by
  induction h with
  | nil => exact absurd hy not_mem_positions_nil
  | @cons parent index s rest place below later ihc ih =>
    rcases mem_positions_cons.mp hy with rfl | hy | hy
    · exact ⟨parent, index, .cons place below later⟩
    · exact ihc hy
    · exact ih hy

/-- **A path tells the position.** -/
theorem eq_of_path {t' : Site} {after' : List Site} (h : Rooted parent index row)
    (hy : t :: after ∈ positions row) (hy' : t' :: after' ∈ positions row)
    (same : t.place.path = t'.place.path) : t :: after = t' :: after' := by
  induction h with
  | nil => exact absurd hy not_mem_positions_nil
  | @cons parent index s rest place below later ihc ih =>
    have all : Rooted parent index (s :: rest) := .cons place below later
    -- each of the two is the first position of the row, or below its first node, or after it
    rcases mem_positions_cons.mp hy with here | low | late <;>
      rcases mem_positions_cons.mp hy' with here' | low' | late'
    · rw [here, here']
    · cases here
      exact absurd same.symm (all.path_ne_of_mem_children low')
    · cases here
      exact absurd same.symm (all.path_ne_of_mem_tail late')
    · cases here'
      exact absurd same (all.path_ne_of_mem_children low)
    · exact ihc low low'
    · exact absurd same (all.path_ne_of_mem_both low late')
    · cases here'
      exact absurd same (all.path_ne_of_mem_tail late)
    · exact absurd same.symm (all.path_ne_of_mem_both low' late)
    · exact ih late late'

end Rooted

end Site

end Stencil
