import Mathlib.Data.List.Sort
import Stencil.Capture.NameMap

/-!
# Capture — look-up in name maps

What a name is bound to, operation by operation (`NameMap.get?_insert`, `NameMap.get?_merge`). A map
has one representation, so it is what its look-ups tell (`NameMap.ext_get?`).
-/

namespace Stencil

namespace NameMap

variable {α : Type} {m m' other : NameMap α} {name n : String} {value : α}

@[ext]
theorem ext_toList (h : m.toList = m'.toList) : m = m' := by
  cases m
  cases m'
  cases h
  rfl

/-! ### Look-ups and bindings -/

@[simp] theorem get?_empty (n : String) : (empty : NameMap α).get? n = none := rfl

theorem lookup_cons (n : String) (b : String × α) (rest : List (String × α)) :
    (b :: rest).lookup n = if n = b.1 then some b.2 else rest.lookup n := by
  rw [List.lookup_cons]
  by_cases same : n = b.1
  · simp [same]
  · rw [beq_eq_false_iff_ne.mpr same, if_neg same]

/-- A name that is none of the names of a row is not bound in the row. -/
theorem lookup_eq_none_of_ne {l : List (String × α)} (h : ∀ b ∈ l, n ≠ b.1) :
    l.lookup n = none :=
  List.lookup_eq_none_iff.mpr fun b mem => bne_iff_ne.mpr (h b mem)

/-- Rows whose names are distinct tell their bindings. -/
theorem lookup_eq_some_iff_of_distinct {l : List (String × α)}
    (distinct : l.Pairwise (·.1 ≠ ·.1)) : l.lookup n = some value ↔ (n, value) ∈ l := by
  induction l with
  | nil => simp
  | cons b rest ih =>
    obtain ⟨first, later⟩ := List.pairwise_cons.mp distinct
    rw [lookup_cons, List.mem_cons, ← ih later]
    by_cases same : n = b.1
    · subst same
      rw [if_pos rfl, lookup_eq_none_of_ne first]
      simp [Prod.ext_iff, eq_comm]
    · simp [same, Prod.ext_iff]

theorem fst_ne_of_lt {a b : String × α} (h : a.1 < b.1) : a.1 ≠ b.1 := by
  intro same
  rw [same] at h
  exact String.lt_irrefl _ h

theorem distinct (m : NameMap α) : m.toList.Pairwise (·.1 ≠ ·.1) := m.sorted.imp fst_ne_of_lt

theorem get?_eq_some_iff : m.get? n = some value ↔ (n, value) ∈ m.toList :=
  lookup_eq_some_iff_of_distinct m.distinct

theorem get?_ne_none_iff : m.get? n ≠ none ↔ n ∈ m.names := by
  rw [Option.ne_none_iff_exists', names]
  simp [get?_eq_some_iff]

instance : Std.Antisymm fun a b : String × α => a.1 < b.1 :=
  ⟨fun _ _ less greater => absurd (String.lt_trans less greater) (String.lt_irrefl _)⟩

instance : Std.Irrefl fun a b : String × α => a.1 < b.1 :=
  ⟨fun _ => String.lt_irrefl _⟩

/-- **A map is what its look-ups tell.** -/
theorem ext_get? (h : ∀ n, m.get? n = m'.get? n) : m = m' := by
  refine ext_toList (m.sorted.eq_of_mem_iff m'.sorted fun ⟨n, value⟩ => ?_)
  rw [← get?_eq_some_iff, ← get?_eq_some_iff, h]

/-! ### Insertion -/

theorem lookup_insertInto (l : List (String × α)) :
    (insertInto name value l).lookup n = if n = name then some value else l.lookup n := by
  induction l with
  | nil => rw [insertInto, lookup_cons]
  | cons b rest ih =>
    rw [insertInto]
    split
    · rw [lookup_cons]
    · split
      · next eq =>
        subst eq
        rw [lookup_cons, lookup_cons]
        split
        · rfl
        · rfl
      · next ne =>
        rw [lookup_cons, lookup_cons, ih]
        by_cases same : n = name
        · rw [same, if_neg ne, if_pos rfl, if_pos rfl]
        · rw [if_neg same, if_neg same]

/-- **Insertion binds one name.** -/
@[simp] theorem get?_insert (m : NameMap α) (name : String) (value : α) (n : String) :
    (m.insert name value).get? n = if n = name then some value else m.get? n :=
  lookup_insertInto m.toList

/-! ### Merging -/

theorem get?_foldl_insert (l : List (String × α)) (distinct : l.Pairwise (·.1 ≠ ·.1))
    (m : NameMap α) :
    (l.foldl (fun m b => m.insert b.1 b.2) m).get? n = (l.lookup n).or (m.get? n) := by
  induction l generalizing m with
  | nil => rfl
  | cons b rest ih =>
    obtain ⟨first, later⟩ := List.pairwise_cons.mp distinct
    rw [List.foldl_cons, ih later, get?_insert, lookup_cons]
    by_cases same : n = b.1
    · subst same
      rw [lookup_eq_none_of_ne first, if_pos rfl, if_pos rfl]
      rfl
    · rw [if_neg same, if_neg same]

/-- **The second of two merged maps comes first.** -/
@[simp] theorem get?_merge (m other : NameMap α) (n : String) :
    (m.merge other).get? n = (other.get? n).or (m.get? n) :=
  get?_foldl_insert other.toList other.distinct m

/-- A merge takes no name away. -/
theorem names_subset_merge (m other : NameMap α) : m.names ⊆ (m.merge other).names := by
  intro n bound
  rw [← get?_ne_none_iff] at bound ⊢
  rw [get?_merge, ne_eq, Option.or_eq_none_iff]
  exact fun absent => bound absent.2

@[simp] theorem merge_empty (m : NameMap α) : m.merge empty = m := rfl

theorem merge_assoc (m₁ m₂ m₃ : NameMap α) :
    (m₁.merge m₂).merge m₃ = m₁.merge (m₂.merge m₃) :=
  ext_get? fun n => by simp [Option.or_assoc]

theorem merge_insert (m other : NameMap α) (name : String) (value : α) :
    m.merge (other.insert name value) = (m.merge other).insert name value := by
  refine ext_get? fun n => ?_
  by_cases same : n = name <;> simp [same]

@[simp] theorem merge_merge_self (m other : NameMap α) :
    m.merge (m.merge other) = m.merge other :=
  ext_get? fun n => by rw [get?_merge, get?_merge, Option.or_assoc, Option.or_self]

end NameMap

end Stencil
