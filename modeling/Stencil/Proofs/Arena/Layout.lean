import Stencil.Document.Arena
import Stencil.Proofs.Document.Outline

/-!
# Arena — layouts

The records of a tree that lies in one piece, its nodes in document order. A tree under way lies so,
too, with a link missing where its next node will stand (`Assembly.records`). What is laid out does
not depend on where it lies (`Node.map_content_layout`), and closing an element does not move
anything (`Assembly.records_leave`).
-/

namespace Stencil

open Markup

/-! ### Tables -/

section Table

variable {α : Type} {before after : List α} {x : α} {i : Nat}

/-- The entry behind a part of a table. -/
theorem look_append (h : before.length = i) : look (before ++ x :: after) i = .ok x := by
  subst h
  simp [look]

theorem change_append (h : before.length = i) (f : α → α) :
    change (before ++ x :: after) i f = .ok (before ++ f x :: after) := by
  subst h
  rw [change, if_pos (by simp)]
  exact congrArg Except.ok (by rw [List.modify_eq_take_cons_drop (by simp)]; simp)

end Table

/-- The link to a row that lies from an index on; an empty row links to what comes after it. -/
def link {α : Type} (i : Nat) (after : Option Nat) (row : List α) : Option Nat :=
  if row.isEmpty then after else some i

/-! ### Rows of trees -/

namespace Node

/-- What a node is. -/
def content : Node → Content
  | element _ name attributes _ => .element name attributes
  | text _ s => .text s

/-- What the nodes of a row of trees are, in document order. -/
def contents : List Node → List Content
  | [] => []
  | .element _ name attributes cs :: rest =>
    .element name attributes :: (contents cs ++ contents rest)
  | .text _ s :: rest => .text s :: contents rest

/-- The number of nodes of a row of trees. -/
def count (row : List Node) : Nat := (contents row).length

/-- The records of a row of trees that lie from an index on, where a link leads on behind the last
tree. -/
def layout (start : Nat) (after : Option Nat) : List Node → List Record
  | [] => []
  | .element d name attributes cs :: rest =>
    ⟨.element name attributes, link (start + 1) none cs, link (start + 1 + count cs) after rest, d⟩ ::
      (layout (start + 1) none cs ++ layout (start + 1 + count cs) after rest)
  | .text d s :: rest =>
    ⟨.text s, none, link (start + 1) after rest, d⟩ :: layout (start + 1) after rest

variable {n : Node} {row rest : List Node} {start : Nat} {after : Option Nat}

@[simp] theorem contents_nil : contents [] = [] := by rw [contents]

theorem contents_cons (n : Node) (rest : List Node) :
    contents (n :: rest) = n.content :: (contents n.children ++ contents rest) := by
  cases n with
  | element d name attributes cs => rw [contents]; rfl
  | text d s => rw [contents, children, contents_nil]; rfl

@[simp] theorem count_nil : count [] = 0 := by rw [count, contents_nil]; rfl

theorem count_cons (n : Node) (rest : List Node) :
    count (n :: rest) = count n.children + count rest + 1 := by
  rw [count, contents_cons, List.length_cons, List.length_append, count, count]

@[simp] theorem layout_nil (start : Nat) (after : Option Nat) : layout start after [] = [] := by
  rw [layout]

theorem layout_cons (start : Nat) (after : Option Nat) (n : Node) (rest : List Node) :
    layout start after (n :: rest) =
      ⟨n.content, link (start + 1) none n.children, link (start + 1 + count n.children) after rest,
          n.depth⟩ ::
        (layout (start + 1) none n.children ++ layout (start + 1 + count n.children) after rest) := by
  cases n with
  | element d name attributes cs => rw [layout]; rfl
  | text d s => rw [layout, children, count_nil, layout_nil]; rfl

theorem layout_singleton (start : Nat) (after : Option Nat) (n : Node) :
    layout start after [n] =
      ⟨n.content, link (start + 1) none n.children, after, n.depth⟩ ::
        layout (start + 1) none n.children := by
  rw [layout_cons, layout_nil, List.append_nil]
  rfl

theorem map_content_layout (row : List Node) : ∀ start after,
    (layout start after row).map (·.content) = contents row := by
  induction row using row_induction with
  | nil => exact fun _ _ => by rw [layout_nil, contents_nil]; rfl
  | cons n rest ihc ih =>
    intro start after
    rw [layout_cons, contents_cons, List.map_cons, List.map_append, ihc, ih]

@[simp] theorem length_layout (start : Nat) (after : Option Nat) (row : List Node) :
    (layout start after row).length = count row := by
  rw [count, ← map_content_layout row start after, List.length_map]

theorem link_append (start : Nat) (after : Option Nat) (row row' : List Node) :
    link start after (row ++ row') = link start (link (start + count row) after row') row := by
  cases row with
  | nil => rw [count_nil]; rfl
  | cons n rest => rfl

theorem link_layout (start : Nat) (after after' : Option Nat) (row : List Node) :
    link start after' (layout start after row) = link start after' row := by
  cases row with
  | nil => rw [layout_nil]; rfl
  | cons n rest => rw [layout_cons]; rfl

/-- Two rows lie one behind the other, the first one linked to the second. -/
theorem layout_append (row row' : List Node) : ∀ start after,
    layout start after (row ++ row') =
      layout start (link (start + count row) after row') row ++
        layout (start + count row) after row' := by
  induction row with
  | nil => exact fun start _ => by rw [layout_nil, count_nil]; rfl
  | cons n rest ih =>
    intro start after
    have behind : start + 1 + count n.children + count rest = start + count (n :: rest) := by
      rw [count_cons]
      omega
    rw [List.cons_append, layout_cons, layout_cons, link_append, ih, behind, List.cons_append,
      List.append_assoc]

end Node

/-! ### Trees under way -/

namespace Assembly

open Node

variable {a : Assembly}

/-- The index of the first node inside the open elements. -/
def base : List OpenElement → Nat
  | [] => 0
  | o :: outer => base outer + count o.earlier.reverse + 1

/-- The index of an open element in others. -/
def spot (o : OpenElement) (outer : List OpenElement) : Nat := base outer + count o.earlier.reverse

/-- The indices of the open elements, the innermost first. -/
def spots : List OpenElement → List Nat
  | [] => []
  | o :: outer => spot o outer :: spots outer

/-- The records of the open elements and of what stands before them; the innermost element is linked
to a first child or not. -/
def around (filled : Bool) : List OpenElement → List Record
  | [] => []
  | o :: outer =>
    around true outer ++
      layout (base outer) (some (spot o outer)) o.earlier.reverse ++
      [⟨.element o.name o.attributes, if filled then some (base (o :: outer)) else none, none,
        outer.length⟩]

/-- The records of a tree under way. -/
def records (a : Assembly) : List Record :=
  around (!a.siblings.isEmpty) a.enclosing ++ layout (base a.enclosing) none a.siblings.reverse

@[simp] theorem length_around (filled : Bool) (enclosing : List OpenElement) :
    (around filled enclosing).length = base enclosing := by
  induction enclosing generalizing filled with
  | nil => rfl
  | cons o outer ih => simp [around, base, ih, Nat.add_assoc]

@[simp] theorem length_spots (enclosing : List OpenElement) :
    (spots enclosing).length = enclosing.length := by
  induction enclosing with
  | nil => rfl
  | cons o outer ih => rw [spots, List.length_cons, ih, List.length_cons]

theorem length_records (a : Assembly) :
    a.records.length = base a.enclosing + count a.siblings.reverse := by
  rw [records, List.length_append, length_around, length_layout]

/-- **An element that is closed stays where it lies.** -/
theorem records_leave (a : Assembly) : a.leave.records = a.records := by
  rw [leave]
  split
  · rfl
  · next o outer e =>
    rw [records, records, e, around, List.reverse_cons, layout_append, layout_singleton]
    simp [base, spot, content, children, Node.depth, link]

theorem records_leaveAll (n : Nat) : ∀ a : Assembly, (leaveAll n a).records = a.records := by
  induction n with
  | zero => exact fun _ => rfl
  | succ n ih => exact fun a => (ih a.leave).trans (records_leave a)

end Assembly

end Stencil
