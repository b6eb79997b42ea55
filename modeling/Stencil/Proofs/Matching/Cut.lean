import Stencil.Proofs.Document.Outline

/-!
# Matching — what stands before a node

A row of siblings without the node at a path and the siblings after that one (`Site.before`), and
likewise a document (`Document.before`), whose outline is cut at the same path
(`Document.outline_before`).
-/

namespace Stencil

namespace Site

mutual

/-- A node without the node at a path below it and without the siblings after that one. -/
def trim (path : List Nat) : Site → Site
  | element place name cs => element place name (before path cs)
  | text place content => text place content

/-- A row of siblings without the node at a path, there or below, and without the siblings after
that one. -/
def before (path : List Nat) : List Site → List Site
  | [] => []
  | s :: rest => if s.place.path = path then [] else s.trim path :: before path rest

end

variable {parent path : List Nat} {index : Nat} {s t : Site} {rest after row : List Site}

theorem before_nil (path : List Nat) : before path [] = [] := by rw [before]

theorem before_head (s : Site) (rest : List Site) : before s.place.path (s :: rest) = [] := by
  rw [before, if_pos rfl]

theorem trim_of_before (h : before path s.children = s.children) : s.trim path = s := by
  cases s with
  | element place name cs =>
    rw [children_element] at h
    rw [trim, h]
  | text place content => rw [trim]

/-- A path at which no node stands cuts nothing off. -/
theorem before_of_not_mem
    (h : ∀ t after, t :: after ∈ positions row → t.place.path ≠ path) : before path row = row := by
  induction row using row_induction with
  | nil => exact before_nil path
  | cons s rest ihc ih =>
    have here := h s rest (mem_positions_self s rest)
    have low := ihc fun t after mem => h t after (mem_positions_of_children mem)
    have late := ih fun t after mem => h t after (mem_positions_of_tail mem)
    rw [before, if_neg here, late, trim_of_before low]

/-- A path over another index than that of the first node of a row leaves this one as it is. -/
theorem before_cons_of_ne {k : Nat} (rooted : Rooted parent index (s :: rest)) (ne : k ≠ index) :
    before (parent ++ k :: path) (s :: rest) = s :: before (parent ++ k :: path) rest := by
  cases rooted with
  | cons place below _ =>
    have here : s.place.path ≠ parent ++ k :: path := by
      rw [place]
      intro same
      exact ne (by simp_all)
    have low : before (parent ++ k :: path) s.children = s.children := by
      refine before_of_not_mem fun t after mem same => ?_
      obtain ⟨i, inner, eq, -⟩ := below.path_of_mem mem
      rw [eq] at same
      exact ne (by simp_all)
    rw [before, if_neg here, trim_of_before low]

/-- A path over the index before those of a row cuts nothing off. -/
theorem before_of_lt {k : Nat} (rooted : Rooted parent index row) (lt : k < index) :
    before (parent ++ k :: path) row = row := by
  refine before_of_not_mem fun t after mem same => ?_
  obtain ⟨i, inner, eq, le⟩ := rooted.path_of_mem mem
  rw [eq] at same
  have : i = k := by simp_all
  omega

/-- A node after the first one of a row is cut off without the first one. -/
theorem before_of_mem_tail (rooted : Rooted parent index (s :: rest))
    (mem : t :: after ∈ positions rest) :
    before t.place.path (s :: rest) = s :: before t.place.path rest := by
  obtain ⟨i, path, eq, le⟩ : ∃ i path, t.place.path = parent ++ i :: path ∧ index + 1 ≤ i := by
    cases rooted with
    | cons _ _ later => exact later.path_of_mem mem
  rw [eq]
  exact before_cons_of_ne rooted (by omega)

/-- A node below the first one of a row is cut off there. -/
theorem before_of_mem_children {place : Place} {name : String} {cs : List Site}
    (rooted : Rooted parent index (.element place name cs :: rest))
    (mem : t :: after ∈ positions cs) :
    before t.place.path (.element place name cs :: rest) =
      .element place name (before t.place.path cs) :: rest := by
  have here := rooted.path_ne_of_mem_children mem
  have late : before t.place.path rest = rest :=
    before_of_not_mem fun _ _ behind => (rooted.path_ne_of_mem_both mem behind).symm
  rw [before, if_neg here.symm, trim, late]

/-- A node is cut off without what stands before it in its row. -/
theorem before_append {x y : List Site} (rooted : Rooted parent index (x ++ y))
    (mem : t :: after ∈ positions y) :
    before t.place.path (x ++ y) = x ++ before t.place.path y := by
  induction x generalizing index with
  | nil => rfl
  | cons s x ih =>
    rw [List.cons_append] at rooted ⊢
    rw [before_of_mem_tail rooted (mem_positions_of_suffix (List.suffix_append x y) mem)]
    cases rooted with
    | cons _ _ later => rw [ih later, List.cons_append]

end Site

/-! ### Documents -/

namespace Node

/-- A node with other children; a text has none. -/
def withChildren (cs : List Node) : Node → Node
  | element d name attributes _ => element d name attributes cs
  | text d content => text d content

/-- A row of siblings with a change from the one on that has an index among those that are not
blank. -/
def changeFrom (change : Node → List Node → List Node) : Nat → List Node → List Node
  | _, [] => []
  | 0, n :: rest => if n.isBlank then n :: changeFrom change 0 rest else change n rest
  | i + 1, n :: rest => n :: changeFrom change (if n.isBlank then i + 1 else i) rest

/-- A row of siblings without the node at a path and without the siblings after that one. -/
def before : List Nat → List Node → List Node
  | [], row => row
  | [i], row => changeFrom (fun _ _ => []) i row
  | i :: j :: path, row =>
    changeFrom (fun n rest => n.withChildren (before (j :: path) n.children) :: rest) i row

variable {parent path : List Nat} {index : Nat}

@[simp] theorem isBlank_withChildren (cs : List Node) (n : Node) :
    (n.withChildren cs).isBlank = n.isBlank := by
  cases n with
  | element d name attributes _ => rfl
  | text d content => rfl

/-- An outline is cut like the row, if it is so from the changed node on. -/
theorem sites_changeFrom {change : Node → List Node → List Node} (row : List Node) :
    ∀ index i,
      (∀ n rest, n.isBlank = false → sites parent (index + i) (change n rest) =
        Site.before (parent ++ (index + i) :: path) (sites parent (index + i) (n :: rest))) →
      sites parent index (changeFrom change i row) =
        Site.before (parent ++ (index + i) :: path) (sites parent index row) := by
  induction row with
  | nil =>
    intro index i _
    rw [changeFrom, sites, Site.before_nil]
  | cons n rest ih =>
    intro index i h
    by_cases blank : n.isBlank
    · have same : changeFrom change i (n :: rest) = n :: changeFrom change i rest := by
        cases i with
        | zero => rw [changeFrom, if_pos blank]
        | succ i => rw [changeFrom, if_pos blank]
      rw [same, sites_cons_of_blank blank, sites_cons_of_blank blank]
      exact ih index i h
    · have visible : n.isBlank = false := by simpa using blank
      cases i with
      | zero =>
        rw [changeFrom, if_neg blank]
        exact h n rest visible
      | succ i =>
        have rooted := rooted_sites (n :: rest) parent index
        have shift : index + (i + 1) = index + 1 + i := by omega
        rw [shift] at h ⊢
        rw [sites_cons_of_visible visible] at rooted ⊢
        rw [changeFrom, if_neg blank, sites_cons_of_visible visible,
          Site.before_cons_of_ne rooted (by omega), ih (index + 1) i h]

/-- **An outline is cut like the row it is of.** -/
theorem sites_before (path : List Nat) : ∀ parent index i row,
    sites parent index (before (i :: path) row) =
      Site.before (parent ++ (index + i) :: path) (sites parent index row) := by
  induction path with
  | nil =>
    intro parent index i row
    rw [before]
    refine sites_changeFrom row index i fun n rest visible => ?_
    rw [sites, sites_cons_of_visible visible, Site.before, if_pos (by simp)]
  | cons j path ih =>
    intro parent index i row
    rw [before]
    refine sites_changeFrom row index i fun n rest visible => ?_
    -- the path leads into the node with this index, and so not to what comes after it
    have late : Site.before (parent ++ (index + i) :: j :: path)
        (sites parent (index + i + 1) rest) = sites parent (index + i + 1) rest :=
      Site.before_of_lt (rooted_sites rest _ _) (by omega)
    have low := ih (parent ++ [index + i]) 0 j n.children
    rw [Nat.zero_add, List.append_assoc, List.singleton_append] at low
    rw [sites_cons_of_visible (by simpa using visible), sites_cons_of_visible visible, Site.before,
      if_neg (by simp), late]
    congr 1
    cases n with
    | element d name attributes cs =>
      rw [withChildren, site, site, Site.trim]
      rw [children] at low ⊢
      rw [low]
    | text d content => rw [withChildren, site, Site.trim]

end Node

namespace Document

/-- A document without the node at a path and without the siblings after that one. -/
def before (path : List Nat) (d : Document) : Document := ⟨Node.before path d.top⟩

/-- **The outline of a document is cut like the document.** -/
theorem outline_before {path : List Nat} (d : Document) (h : path ≠ []) :
    (d.before path).outline = Site.before path d.outline := by
  obtain ⟨i, path, rfl⟩ := List.exists_cons_of_ne_nil h
  have cut := Node.sites_before path [] 0 i d.top
  rwa [Nat.zero_add] at cut

end Document

end Stencil
