import Mathlib.Data.List.DropRight
import Mathlib.Data.List.TakeWhile
import Mathlib.Logic.Function.Iterate
import Stencil.Document.Cursor
import Stencil.Proofs.Document.Nesting

/-!
# Document — shapes

The shape of a document is what is left of it without its attributes, its blank texts and the depths
that its nodes record. Where these depths are right, a document has the outline of its shape
(`Document.outline_eq_of_shape`); and the moves that pass over blank texts go over the shape, too
(`Node.shapes_follow`), and lead to the nodes of the outline (`Document.reached_of_mem`). The steps
of a match over an outline are these moves (`Cursor.SeenAs.steps`, `Document.seenAs_reach_of_mem`).
-/

namespace Stencil

/-- A tree of elements and texts. -/
inductive Shape where
  | element (name : String) (children : List Shape)
  | text (content : String)

namespace Shape

/-- The children of an element; a text has none. -/
def children : Shape → List Shape
  | element _ cs => cs
  | text _ => []

mutual

/-- The outline of a tree that stands at a path, at a level. -/
def site (path : List Nat) (level : Nat) : Shape → Site
  | element name cs => .element ⟨path, level⟩ name (sites path 0 (level + 1) cs)
  | text content => .text ⟨path, level⟩ content

/-- The outline of a row of trees at a level, the first of which has an index among the children of
the node at a path. -/
def sites (parent : List Nat) (index level : Nat) : List Shape → List Site
  | [] => []
  | s :: rest => s.site (parent ++ [index]) level :: sites parent (index + 1) level rest

end

/-- The row from the tree on that stands at a path, where the first index of the path counts along
the row itself. -/
def follow : List Nat → List Shape → List Shape
  | [], _ => []
  | [i], row => row.drop i
  | i :: path, row => follow path (((row.drop i).head?.map children).getD [])

end Shape

namespace Node

mutual

/-- The shape of a node. -/
def shape : Node → Shape
  | element _ name _ cs => .element name (shapes cs)
  | text _ content => .text content

/-- The shapes of the nodes of a row that are not blank. -/
def shapes : List Node → List Shape
  | [] => []
  | n :: rest => if n.isBlank then shapes rest else n.shape :: shapes rest

end

variable {n : Node} {rest : List Node} {level : Nat}

theorem shapes_cons_of_blank (h : n.isBlank) : shapes (n :: rest) = shapes rest := by
  rw [shapes, if_pos h]

theorem shapes_cons_of_visible (h : n.isBlank = false) :
    shapes (n :: rest) = n.shape :: shapes rest := by
  rw [shapes, if_neg (by simp [h])]

@[simp] theorem children_shape (n : Node) : n.shape.children = shapes n.children := by
  cases n with
  | element d name attributes cs => rw [shape]; rfl
  | text d content => rw [shape, children, shapes]; rfl

/-- A row whose depths are right has the outline of its shape. -/
theorem sites_shapes (row : List Node) : ∀ parent index level, Leveled level row →
    sites parent index row = Shape.sites parent index level (shapes row) := by
  induction row using row_induction with
  | nil => exact fun _ _ _ _ => by rw [sites, shapes, Shape.sites]
  | cons n rest ihc ih =>
    intro parent index level leveled
    obtain ⟨here, inner, later⟩ := leveled_cons.mp leveled
    by_cases blank : n.isBlank
    · -- neither the outline nor the shape counts a blank text, so the index stays
      rw [sites_cons_of_blank blank, shapes_cons_of_blank blank]
      exact ih parent index level later
    · have visible : n.isBlank = false := by simpa using blank
      have front : n.site (parent ++ [index]) = n.shape.site (parent ++ [index]) level := by
        cases n with
        | element d name attributes cs =>
          obtain rfl : d = level := here
          rw [site, shape, Shape.site]
          exact congrArg _ (ihc _ 0 (d + 1) inner)
        | text d content =>
          obtain rfl : d = level := here
          rw [site, shape, Shape.site]
      rw [sites_cons_of_visible visible, shapes_cons_of_visible visible, Shape.sites, front,
        ih parent (index + 1) level later]

end Node

/-! ### Moves -/

namespace Cursor

/-- Where moves lead that pass over blank texts: as many siblings on as the first index of a path
tells, to the first child there, and so on. -/
def follow : List Nat → Cursor → Cursor
  | [], _ => []
  | [i], c => next^[i] c
  | i :: path, c => follow path (child (next^[i] c))

theorem follow_succ (i : Nat) (path : List Nat) (c : Cursor) :
    follow ((i + 1) :: path) c = follow (i :: path) (next c) := by
  cases path with
  | nil => rfl
  | cons j path => rfl

end Cursor

namespace Node

open Cursor

variable {n : Node} {row rest : List Node}

theorem skipBlank_cons_of_blank (h : n.isBlank) : skipBlank (n :: rest) = skipBlank rest := by
  rw [skipBlank, List.dropWhile_cons_of_pos h, skipBlank]

theorem skipBlank_cons_of_visible (h : n.isBlank = false) : skipBlank (n :: rest) = n :: rest := by
  rw [skipBlank, List.dropWhile_cons_of_neg (by simp [h])]

/-- The first node of a row that is not blank leads its shape. -/
theorem skipBlank_cases (row : List Node) :
    skipBlank row = [] ∧ shapes row = [] ∨
      ∃ n rest, skipBlank row = n :: rest ∧ shapes row = n.shape :: shapes rest := by
  induction row with
  | nil => exact .inl ⟨rfl, by rw [shapes]⟩
  | cons n rest ih =>
    by_cases blank : n.isBlank
    · rw [skipBlank_cons_of_blank blank, shapes_cons_of_blank blank]
      exact ih
    · have visible : n.isBlank = false := by simpa using blank
      exact .inr ⟨n, rest, skipBlank_cons_of_visible visible, shapes_cons_of_visible visible⟩

theorem shapes_skipBlank (row : List Node) : shapes (skipBlank row) = shapes row := by
  induction row with
  | nil => rfl
  | cons n rest ih =>
    by_cases blank : n.isBlank
    · rw [skipBlank_cons_of_blank blank, shapes_cons_of_blank blank, ih]
    · rw [skipBlank_cons_of_visible (by simpa using blank)]

theorem shapes_rawNext (row : List Node) :
    shapes (rawNext (skipBlank row)) = (shapes row).tail := by
  rcases skipBlank_cases row with ⟨none, shape⟩ | ⟨n, rest, some, shape⟩
  · rw [none, shape]
    rfl
  · rw [some, shape]
    rfl

theorem shapes_rawChild (row : List Node) :
    shapes (rawChild (skipBlank row)) = ((shapes row).head?.map Shape.children).getD [] := by
  rcases skipBlank_cases row with ⟨none, shape⟩ | ⟨n, rest, some, shape⟩
  · rw [none, shape]
    rfl
  · rw [some, shape, List.head?_cons, Option.map_some, Option.getD_some, children_shape, rawChild]

/-- Steps along a row lead to the first node of a later part of it that is not blank. -/
theorem shapes_iterate_next (i : Nat) : ∀ row : List Node,
    ∃ row', next^[i] (skipBlank row) = skipBlank row' ∧ shapes row' = (shapes row).drop i := by
  induction i with
  | zero => exact fun row => ⟨row, rfl, rfl⟩
  | succ i ih =>
    intro row
    obtain ⟨row', moved, shape⟩ := ih (rawNext (skipBlank row))
    exact ⟨row', moved, by rw [shape, shapes_rawNext, List.drop_tail]⟩

/-- **Moves go over the shape.** -/
theorem shapes_follow (path : List Nat) : ∀ row : List Node,
    shapes (follow path (skipBlank row)) = Shape.follow path (shapes row) := by
  induction path with
  | nil => exact fun _ => by rw [follow, shapes, Shape.follow]
  | cons i path ih =>
    intro row
    -- the last index of a path is not followed by a move to a child
    obtain ⟨row', moved, shape⟩ := shapes_iterate_next i row
    cases path with
    | nil => rw [follow, Shape.follow, moved, shapes_skipBlank, shape]
    | cons j path =>
      rw [follow, Shape.follow, moved, child, ih, shapes_rawChild, shape]
      · exact List.cons_ne_nil j path
      · exact List.cons_ne_nil j path

/-- The outline of a row is that of the row from its first node on that is not blank. -/
theorem sites_skipBlank (parent : List Nat) (index : Nat) (row : List Node) :
    sites parent index (skipBlank row) = sites parent index row := by
  induction row with
  | nil => rfl
  | cons n rest ih =>
    by_cases blank : n.isBlank
    · rw [skipBlank_cons_of_blank blank, sites_cons_of_blank blank, ih]
    · rw [skipBlank_cons_of_visible (by simpa using blank)]

end Node

/-! ### Steps over an outline -/

namespace Cursor

open Node

/-- A cursor at which a match sees a position of the outline: the cursor is at a node that is not
blank, or at none, and the position is the outline of this node and the siblings after it. -/
def SeenAs (c : Cursor) (pos : Position) : Prop :=
  skipBlank c = c ∧ ∃ parent index, pos = sites parent index c

variable {c : Cursor} {pos : Position}

theorem seenAs_sites (parent : List Nat) (index : Nat) (row : List Node) :
    SeenAs (skipBlank row) (sites parent index row) :=
  ⟨List.dropWhile_idempotent _ _, parent, index, (sites_skipBlank parent index row).symm⟩

theorem seenAs_root (d : Document) : SeenAs (root d) d.outline := seenAs_sites [] 0 d.top

/-- **A step of a match is a move.** A match sees no node where the cursor is at none. Else it sees
the node that the cursor is at, and where the match goes on after it or among its children, it sees
what the moves to the next sibling and to the first child show. -/
theorem SeenAs.steps (h : SeenAs c pos) :
    c = [] ∧ pos = [] ∨
      ∃ n rest t after, c = n :: rest ∧ pos = t :: after ∧ n.isBlank = false ∧
        n.site t.place.path = t ∧ SeenAs (next c) after ∧ SeenAs (child c) t.children := by
  obtain ⟨settled, parent, index, rfl⟩ := h
  cases c with
  | nil => exact .inl ⟨rfl, by rw [sites]⟩
  | cons n rest =>
    have visible : n.isBlank = false := by
      simpa using List.dropWhile_eq_self_iff.mp settled (Nat.succ_pos _)
    refine .inr ⟨n, rest, _, _, rfl, sites_cons_of_visible visible, visible, by simp,
      seenAs_sites parent (index + 1) rest, ?_⟩
    rw [children_site]
    exact seenAs_sites _ 0 n.children

end Cursor

namespace Node

open Cursor

variable {n : Node} {row rest : List Node}

/-- Every position of an outline is shown where the indices of its path lead from the row. -/
theorem seenAs_follow_of_mem (row : List Node) : ∀ parent index {t : Site} {after : List Site},
    t :: after ∈ Site.positions (sites parent index row) →
    ∃ i path, t.place.path = parent ++ (index + i) :: path ∧
      SeenAs (follow (i :: path) (skipBlank row)) (t :: after) := by
  induction row using row_induction with
  | nil =>
    intro parent index t after h
    rw [sites] at h
    exact absurd h Site.not_mem_positions_nil
  | cons n rest ihc ih =>
    intro parent index t after h
    by_cases blank : n.isBlank
    · rw [sites_cons_of_blank blank] at h
      rw [skipBlank_cons_of_blank blank]
      exact ih parent index h
    · have visible : n.isBlank = false := by simpa using blank
      have shown : SeenAs (skipBlank (n :: rest)) (sites parent index (n :: rest)) :=
        seenAs_sites parent index (n :: rest)
      rw [sites_cons_of_visible visible] at h shown
      rw [skipBlank_cons_of_visible visible] at shown ⊢
      rcases Site.mem_positions_cons.mp h with here | low | late
      · cases here
        exact ⟨0, [], by simp, shown⟩
      · -- below the first node, whose index comes before those of the path there
        rw [children_site] at low
        obtain ⟨i, path, place, shown⟩ := ihc _ 0 low
        exact ⟨0, i :: path, by simpa using place, shown⟩
      · -- after it, one step further along the row
        obtain ⟨i, path, place, shown⟩ := ih parent (index + 1) late
        refine ⟨i + 1, path, ?_, ?_⟩
        · rw [place, Nat.add_assoc, Nat.add_comm 1 i]
        · rw [follow_succ]
          exact shown

end Node

namespace Document

variable {d d' : Document}

/-- The shape of a document. -/
def shape (d : Document) : List Shape := Node.shapes d.top

/-- The node of a document at the path of a node of an outline, with the siblings after it. -/
def reach (d : Document) (t : Site) : Cursor := Cursor.follow t.place.path (Cursor.root d)

/-- **Documents of one shape have one outline**, if they record how deep their nodes are nested. -/
theorem outline_eq_of_shape (leveled : Node.Leveled 0 d.top) (leveled' : Node.Leveled 0 d'.top)
    (same : d.shape = d'.shape) : d.outline = d'.outline := by
  rw [outline, outline, Node.sites_shapes _ [] 0 0 leveled, Node.sites_shapes _ [] 0 0 leveled',
    ← shape, ← shape, same]

/-- **What a match sees at a node of the outline is shown where its path leads.** -/
theorem seenAs_reach_of_mem {t : Site} {after : List Site} (h : t :: after ∈ d.positions) :
    Cursor.SeenAs (d.reach t) (t :: after) := by
  obtain ⟨i, path, place, shown⟩ := Node.seenAs_follow_of_mem d.top [] 0 h
  rw [List.nil_append, Nat.zero_add] at place
  rw [reach, place]
  exact shown

/-- **A node of the outline is reached over its path.** -/
theorem reached_of_mem {t : Site} {after : List Site} (h : t :: after ∈ d.positions) :
    ∃ n rest, d.reach t = n :: rest ∧ n.site t.place.path = t := by
  rcases (seenAs_reach_of_mem h).steps with ⟨-, none⟩ | ⟨n, rest, _, _, reached, some, -, eq, -⟩
  · cases none
  · cases some
    exact ⟨n, rest, reached, eq⟩

/-- **In documents of one shape, the same path leads to the same shape.** -/
theorem shapes_reach (same : d.shape = d'.shape) (t : Site) :
    Node.shapes (d.reach t) = Node.shapes (d'.reach t) := by
  rw [reach, reach, Cursor.root, Cursor.root, Node.shapes_follow, Node.shapes_follow, ← shape,
    ← shape, same]

end Document

end Stencil
