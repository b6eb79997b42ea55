/-!
# Capture — Name map

Finite maps from names, kept in increasing order of their names, so that a map has one
representation and is written in one way.
-/

namespace Stencil

/-- A map from names, by its bindings in strictly increasing order of the names. -/
structure NameMap (α : Type) where
  toList : List (String × α)
  sorted : toList.Pairwise (·.1 < ·.1)
  deriving DecidableEq

namespace NameMap

variable {α : Type}

/-- The map that binds nothing. -/
def empty : NameMap α := ⟨[], .nil⟩

/-- Bindings with one more, which takes the place of an earlier one of its name. -/
def insertInto (name : String) (value : α) : List (String × α) → List (String × α)
  | [] => [(name, value)]
  | (n, v) :: rest =>
    if name < n then (name, value) :: (n, v) :: rest
    else if name = n then (name, value) :: rest
    else (n, v) :: insertInto name value rest

theorem fst_mem_insertInto {name : String} {value : α} {l : List (String × α)} {b : String × α}
    (h : b ∈ insertInto name value l) : b.1 = name ∨ b ∈ l := by
  induction l with
  | nil => simp_all [insertInto]
  | cons a rest ih =>
    simp only [insertInto] at h
    split at h
    · rcases List.mem_cons.mp h with rfl | h
      · exact .inl rfl
      · exact .inr h
    · split at h
      · rcases List.mem_cons.mp h with rfl | h
        · exact .inl rfl
        · exact .inr (List.mem_cons_of_mem _ h)
      · rcases List.mem_cons.mp h with rfl | h
        · exact .inr List.mem_cons_self
        · exact (ih h).imp_right (List.mem_cons_of_mem _)

theorem sorted_insertInto {name : String} {value : α} {l : List (String × α)}
    (h : l.Pairwise (·.1 < ·.1)) : (insertInto name value l).Pairwise (·.1 < ·.1) := by
  induction l with
  | nil => simp [insertInto]
  | cons a rest ih =>
    have ⟨first, later⟩ := List.pairwise_cons.mp h
    simp only [insertInto]
    split
    · next lt =>
      refine List.pairwise_cons.mpr ⟨fun b hb => ?_, h⟩
      rcases List.mem_cons.mp hb with rfl | hb
      · exact lt
      · exact String.lt_trans lt (first b hb)
    · next notLt =>
      split
      · next eq => exact List.pairwise_cons.mpr ⟨fun b hb => eq ▸ first b hb, later⟩
      · next ne =>
        refine List.pairwise_cons.mpr ⟨fun b hb => ?_, ih later⟩
        rcases fst_mem_insertInto hb with eq | hb
        · simp only [eq]
          exact Decidable.byContradiction fun notGt =>
            ne (String.le_antisymm (String.not_lt.mp notGt) (String.not_lt.mp notLt))
        · exact first b hb

/-- The map with a name bound to a value, in place of what it was bound to. -/
def insert (m : NameMap α) (name : String) (value : α) : NameMap α :=
  ⟨insertInto name value m.toList, sorted_insertInto m.sorted⟩

/-- What a name is bound to. -/
def get? (m : NameMap α) (name : String) : Option α := m.toList.lookup name

/-- The bound names, in increasing order. -/
def names (m : NameMap α) : List String := m.toList.map (·.1)

/-- The first map with every binding of the second put in. -/
def merge (m other : NameMap α) : NameMap α :=
  other.toList.foldl (fun m b => m.insert b.1 b.2) m

end NameMap

end Stencil
