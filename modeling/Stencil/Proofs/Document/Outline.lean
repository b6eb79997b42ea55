import Stencil.Document.Cursor
import Stencil.Matching.Outline
import Stencil.Proofs.Matching.Order

/-!
# Document — outlines

The outline of a document holds its nodes that are not blank (`Document.isBlank_of_mem`), each at
the path where it stands (`Document.rooted_outline`), in the order in which a walk over the document
meets them (`Document.walk_outline`).
-/

namespace Stencil

namespace Node

/-- Induction over rows of siblings: a node comes with its children and with the siblings after
it. -/
@[elab_as_elim]
theorem row_induction {P : List Node → Prop} (nil : P [])
    (cons : ∀ n rest, P n.children → P rest → P (n :: rest)) (row : List Node) : P row :=
  match row with
  | [] => nil
  | .element d name attributes cs :: rest =>
    cons (.element d name attributes cs) rest (row_induction nil cons cs)
      (row_induction nil cons rest)
  | .text d content :: rest => cons (.text d content) rest nil (row_induction nil cons rest)
termination_by sizeOf row

variable {n : Node} {rest : List Node} {parent path : List Nat} {index : Nat}

/-! ### The outline of a row -/

@[simp] theorem place_site (path : List Nat) (n : Node) :
    (n.site path).place = ⟨path, n.depth⟩ := by
  cases n with
  | element d name attributes cs => rw [site]; rfl
  | text d content => rw [site]; rfl

@[simp] theorem children_site (path : List Nat) (n : Node) :
    (n.site path).children = sites path 0 n.children := by
  cases n with
  | element d name attributes cs => rw [site]; rfl
  | text d content => rw [site, children, sites]; rfl

theorem sites_cons_of_blank (h : n.isBlank) :
    sites parent index (n :: rest) = sites parent index rest := by
  rw [sites, if_pos h]

theorem sites_cons_of_visible (h : n.isBlank = false) :
    sites parent index (n :: rest) =
      n.site (parent ++ [index]) :: sites parent (index + 1) rest := by
  rw [sites, if_neg (by simp [h])]

/-- Nodes of an outline stand where their paths tell. -/
theorem rooted_sites (row : List Node) :
    ∀ parent index, Site.Rooted parent index (sites parent index row) := by
  induction row using row_induction with
  | nil => exact fun _ _ => .nil
  | cons n rest ihc ih =>
    intro parent index
    by_cases blank : n.isBlank
    · rw [sites_cons_of_blank blank]
      exact ih parent index
    · rw [sites_cons_of_visible (by simpa using blank)]
      refine .cons (by simp) ?_ (ih parent (index + 1))
      rw [children_site]
      exact ihc _ 0

/-! ### The order of the nodes -/

/-- What a node shows of itself without its place: its depth, and its name or its content. -/
def label (n : Node) : Nat × Option String × Option String := (n.depth, n.name?, n.text?)

end Node

namespace Site

/-- Whether a node is a text of white space only. -/
def isBlank : Site → Bool
  | element _ _ _ => false
  | text _ content => Text.isBlank content

/-- The content of a text. -/
def text? : Site → Option String
  | element _ _ _ => none
  | text _ content => some content

/-- What a node shows of itself without its place: its depth, and its name or its content. -/
def label (s : Site) : Nat × Option String × Option String := (s.depth, s.name?, s.text?)

end Site

namespace Node

variable {n : Node} {rest : List Node}

@[simp] theorem isBlank_site (path : List Nat) (n : Node) : (n.site path).isBlank = n.isBlank := by
  cases n with
  | element d name attributes cs => rw [site]; rfl
  | text d content => rw [site]; rfl

@[simp] theorem label_site (path : List Nat) (n : Node) : (n.site path).label = n.label := by
  cases n with
  | element d name attributes cs => rw [site]; rfl
  | text d content => rw [site]; rfl

theorem isBlank_of_mem_sites (row : List Node) : ∀ parent index {t : Site} {after : List Site},
    t :: after ∈ Site.positions (sites parent index row) → t.isBlank = false := by
  induction row using row_induction with
  | nil =>
    intro parent index t after h
    rw [sites] at h
    exact absurd h Site.not_mem_positions_nil
  | cons n rest ihc ih =>
    intro parent index t after h
    by_cases blank : n.isBlank
    · rw [sites_cons_of_blank blank] at h
      exact ih parent index h
    · rw [sites_cons_of_visible (by simpa using blank)] at h
      rcases Site.mem_positions_cons.mp h with here | low | late
      · cases here
        simpa using blank
      · rw [children_site] at low
        exact ihc _ 0 low
      · exact ih parent (index + 1) late

theorem walk_cons (level : Nat) (n : Node) (rest : List Node) :
    walk level (n :: rest) = (level, n) :: (walk (level + 1) n.children ++ walk level rest) := by
  cases n with
  | element d name attributes cs => rw [walk]; rfl
  | text d content =>
    rw [walk, children, walk]
    rfl

/-- A blank node has nothing below it, so a walk that leaves blank nodes out keeps the others in
their order. -/
theorem walk_sites (row : List Node) : ∀ parent index level,
    (Site.positions (sites parent index row)).filterMap (·.head?.map Site.label) =
      ((walk level row).filter (!·.2.isBlank)).map (·.2.label) := by
  induction row using row_induction with
  | nil =>
    intro parent index level
    rw [sites, walk]
    rfl
  | cons n rest ihc ih =>
    intro parent index level
    rw [walk_cons]
    by_cases blank : n.isBlank
    · -- a blank node is a text
      have childless : n.children = [] := by
        cases n with
        | element d name attributes cs => exact absurd blank (by simp [isBlank])
        | text d content => rfl
      rw [sites_cons_of_blank blank, ih parent index level, childless, walk]
      simp [blank]
    · rw [sites_cons_of_visible (by simpa using blank), Site.positions_cons, children_site]
      simp [blank, ihc _ 0 (level + 1), ih parent (index + 1) level]

end Node

namespace Document

variable {d : Document}

/-- The positions of the nodes of a document that are not blank, in document order. -/
def positions (d : Document) : List Position := Site.positions d.outline

theorem rooted_outline (d : Document) : Site.Rooted [] 0 d.outline := Node.rooted_sites d.top [] 0

/-- **No node of an outline is blank.** -/
theorem isBlank_of_mem {t : Site} {after : List Site} (h : t :: after ∈ d.positions) :
    t.isBlank = false :=
  Node.isBlank_of_mem_sites d.top [] 0 h

/-- **An outline keeps document order.** -/
theorem walk_outline (d : Document) :
    d.positions.filterMap (·.head?.map Site.label) =
      ((Node.walk 0 d.top).filter (!·.2.isBlank)).map (·.2.label) :=
  Node.walk_sites d.top [] 0 0

end Document

end Stencil
