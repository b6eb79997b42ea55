import Mathlib.Data.List.Nodup
import Stencil.Document.Normal
import Stencil.Proofs.Arena.Layout
import Stencil.Proofs.Document.Nesting

/-!
# Arena — links

What is met on the way along the links of a table, in document order (`Visits`), and the row of
trees that is spelled there (`Spells`). A way is not changed by a change of records that do not lie
on it (`Spells.frame`). Over such ways, the chain of the siblings that are not blank is found
(`visible_of_spells`), and all that is met is put one level deeper (`deepen_of_spells`), within as
many steps as there are records.
-/

namespace Stencil

variable {records records' : List Record} {start mid stop : Option Nat} {ids ids' : List Nat}
  {row row' rest : List Node} {n : Node} {i : Nat}

@[simp] theorem Node.content_deepen (n : Node) : n.deepen.content = n.content := by
  cases n with
  | element d name attributes cs => rw [deepen]; rfl
  | text d content => rw [deepen]; rfl

/-- The way from a link on in document order: every node comes before those that its first child
leads to, and these before those that its next sibling leads to. -/
inductive Visits (records : List Record) : Option Nat → List Nat → Prop
  | none : Visits records none []
  | some {i : Nat} {r : Record} {below later : List Nat} : records[i]? = some r →
      Visits records r.firstChild below → Visits records r.nextSibling later →
      Visits records (some i) (i :: (below ++ later))

/-- The way in document order from one link to another, which comes behind the last tree of the row
that is spelled on the way. -/
inductive Spells (records : List Record) :
    Option Nat → Option Nat → List Nat → List Node → Prop
  | nil (link : Option Nat) : Spells records link link [] []
  | cons {i : Nat} {r : Record} {n : Node} {stop : Option Nat} {below later : List Nat}
      {rest : List Node} : records[i]? = some r → r.content = n.content → r.depth = n.depth →
      Spells records r.firstChild none below n.children →
      Spells records r.nextSibling stop later rest →
      Spells records (some i) stop (i :: (below ++ later)) (n :: rest)

namespace Spells

theorem visits (h : Spells records start stop ids row) (last : stop = none) :
    Visits records start ids := by
  induction h with
  | nil link => rw [last]; exact .none
  | cons here _ _ _ _ ihc ih => exact .some here (ihc rfl) (ih last)

/-- What is met lies in the table. -/
theorem lt_length (h : Spells records start stop ids row) : ∀ i ∈ ids, i < records.length := by
  induction h with
  | nil link => simp
  | cons here _ _ _ _ ihc ih =>
    obtain ⟨bound, -⟩ := List.getElem?_eq_some_iff.mp here
    exact List.forall_mem_cons.mpr ⟨bound, List.forall_mem_append.mpr ⟨ihc, ih⟩⟩

theorem length_le (h : Spells records start stop ids row) : row.length ≤ ids.length := by
  induction h with
  | nil link => simp
  | cons _ _ _ _ _ _ ih => simp only [List.length_cons, List.length_append]; omega

/-- A way stays the same in a table that has the same records on it. -/
theorem frame (h : Spells records start stop ids row)
    (same : ∀ i ∈ ids, records'[i]? = records[i]?) : Spells records' start stop ids row := by
  induction h with
  | nil link => exact .nil link
  | cons here content depth _ _ ihc ih =>
    obtain ⟨head, below, later⟩ : _ ∧ _ ∧ _ := by
      simpa only [List.forall_mem_cons, List.forall_mem_append] using same
    exact .cons (head.trans here) content depth (ihc below) (ih later)

/-- A way where everything is put one level deeper. -/
theorem deepen (h : Spells records start stop ids row)
    (deeper : ∀ i ∈ ids, records'[i]? = records[i]?.map Record.deepen) :
    Spells records' start stop ids (row.map Node.deepen) := by
  induction h with
  | nil link => exact .nil link
  | @cons i r n stop below later rest here content depth _ _ ihc ih =>
    obtain ⟨head, below, later⟩ : _ ∧ _ ∧ _ := by
      simpa only [List.forall_mem_cons, List.forall_mem_append] using deeper
    rw [here] at head
    refine .cons head ?_ ?_ ?_ (ih later)
    · rw [Node.content_deepen]
      exact content
    · simpa [Record.deepen] using depth
    · rw [Node.children_deepen]
      exact ihc below

theorem append (h : Spells records start mid ids row) (h' : Spells records mid stop ids' row') :
    Spells records start stop (ids ++ ids') (row ++ row') := by
  induction h with
  | nil link => exact h'
  | cons here content depth below _ _ ih =>
    rw [List.cons_append, List.append_assoc, List.cons_append]
    exact .cons here content depth below (ih h')

end Spells

/-- A row that lies in a table is spelled there, in the order of the records. -/
theorem spells_layout (row : List Node) : ∀ start stop before after, before.length = start →
    records = before ++ (Node.layout start stop row ++ after) →
    Spells records (link start stop row) stop (List.range' start (Node.count row)) row := by
  induction row using Node.row_induction with
  | nil =>
    intro start stop before after _ _
    rw [Node.count_nil]
    exact .nil stop
  | cons n rest ihc ih =>
    intro start stop before after len table
    let behind := start + 1 + Node.count n.children
    let r : Record := ⟨n.content, link (start + 1) none n.children, link behind stop rest, n.depth⟩
    have table : records = before ++ r ::
        (Node.layout (start + 1) none n.children ++ (Node.layout behind stop rest ++ after)) := by
      simp [table, Node.layout_cons, r, behind]
    have here : records[start]? = some r := by simp [table, ← len]
    have order : List.range' start (Node.count (n :: rest)) =
        start :: (List.range' (start + 1) (Node.count n.children) ++
          List.range' behind (Node.count rest)) := by
      rw [Node.count_cons, List.range'_succ, List.range'_append_1]
    rw [order]
    refine .cons here rfl rfl
      (ihc (start + 1) none (before ++ [r]) (Node.layout behind stop rest ++ after) ?_ ?_)
      (ih behind stop (before ++ [r] ++ Node.layout (start + 1) none n.children) after ?_ ?_)
    · simp [len]
    · simp [table]
    · simp only [List.length_append, List.length_singleton, Node.length_layout, len, behind]
    · simp [table]

/-! ### The chain of siblings -/

theorem look_eq_ok {α : Type} {table : List α} {i : Nat} {x : α} (h : table[i]? = some x) :
    look table i = .ok x := by
  rw [look, h]

theorem change_eq_ok {α : Type} {table : List α} {i : Nat} (h : i < table.length) (f : α → α) :
    change table i f = .ok (table.modify i f) := if_pos h

namespace Node

@[simp] theorem isBlank_content (n : Node) : n.content.isBlank = n.isBlank := by
  cases n with
  | element d name attributes cs => rfl
  | text d s => rfl

/-- A text has no name, and no element that is looked for has the empty one. -/
theorem name_content (n : Node) {name : String} (h : name ≠ "") :
    (n.content.name == name) = n.isNamed name := by
  cases n with
  | element d n attributes cs => simp [content, Content.name, isNamed, name?]
  | text d s => simp [content, Content.name, isNamed, name?, h.symm]

end Node

open Document

/-- The first node of a row that is not blank lies at an index, where the way over the row is cut. -/
inductive FirstVisible (records : List Record) (start : Option Nat) (i : Nat) (n : Node) :
    List Nat → List Node → Prop
  | mk {before after : List Node} {way later : List Nat} : (∀ m ∈ before, m.isBlank) →
      n.isBlank = false → Spells records start (some i) way before →
      Spells records (some i) none later (n :: after) →
      FirstVisible records start i n (way ++ later) (before ++ n :: after)

/-- The nodes that are not blank are found, and the first of them where it lies. -/
theorem visible_of_spells (h : Spells records start none ids row) {fuel : Nat}
    (enough : row.length ≤ fuel) :
    ∃ seen, Arena.visible records fuel start = .ok seen ∧
      seen.map (·.2) = (visible row).map Node.content ∧
      ∀ i c more, seen = (i, c) :: more → ∃ n, FirstVisible records start i n ids row := by
  induction row generalizing start ids fuel with
  | nil =>
    cases h
    exact ⟨[], by cases fuel <;> rfl, rfl, by simp⟩
  | cons n rest ih =>
    cases h with
    | @cons i r _ _ below later _ here content depth inner next =>
      obtain ⟨fuel, rfl⟩ : ∃ k, fuel = k + 1 :=
        Nat.exists_eq_add_of_le' (Nat.lt_of_lt_of_le (by simp) enough)
      obtain ⟨seen, found, contents, first⟩ := ih next (Nat.le_of_succ_le_succ enough)
      have step : Arena.visible records (fuel + 1) (some i) =
          .ok (if n.isBlank then seen else (i, n.content) :: seen) := by
        rw [Arena.visible, look_eq_ok here, ok_bind, found, ok_bind, content, Node.isBlank_content]
      by_cases blank : n.isBlank
      · refine ⟨seen, by rw [step, if_pos blank], ?_, fun j c more e => ?_⟩
        · rw [contents, visible, visible, List.filter_cons_of_neg (by simp [blank])]
        · obtain ⟨m, early, visible, way, after⟩ := first j c more e
          have found := FirstVisible.mk (List.forall_mem_cons.mpr ⟨blank, early⟩) visible
            (.cons here content depth inner way) after
          rw [List.cons_append, List.append_assoc] at found
          exact ⟨m, found⟩
      · refine ⟨(i, n.content) :: seen, by rw [step, if_neg blank], ?_, fun j c more e => ?_⟩
        · rw [List.map_cons, contents, visible, visible, List.filter_cons_of_pos (by simp [blank])]
          rfl
        · cases e
          have found : FirstVisible records (some i) i n ([] ++ i :: (below ++ later))
              ([] ++ n :: rest) :=
            .mk (by simp) (by simpa using blank) (.nil _) (.cons here content depth inner next)
          exact ⟨n, found⟩

/-! ### Depths -/

/-- A table with the records at these indices one level deeper. -/
def deepenAt (ids : List Nat) (records : List Record) : List Record :=
  records.mapIdx fun i r => if i ∈ ids then r.deepen else r

@[simp] theorem length_deepenAt (ids : List Nat) (records : List Record) :
    (deepenAt ids records).length = records.length := List.length_mapIdx

theorem getElem?_deepenAt_of_mem (h : i ∈ ids) :
    (deepenAt ids records)[i]? = records[i]?.map Record.deepen := by
  simp [deepenAt, h]

theorem getElem?_deepenAt_of_not_mem (h : i ∉ ids) :
    (deepenAt ids records)[i]? = records[i]? := by
  simp [deepenAt, h]

theorem map_content_deepenAt (ids : List Nat) (records : List Record) :
    (deepenAt ids records).map (·.content) = records.map (·.content) := by
  refine List.ext_getElem? fun i => ?_
  rw [List.getElem?_map, List.getElem?_map]
  by_cases h : i ∈ ids
  · rw [getElem?_deepenAt_of_mem h, Option.map_map]
    rfl
  · rw [getElem?_deepenAt_of_not_mem h]

theorem deepenAt_nil (records : List Record) : deepenAt [] records = records :=
  List.ext_getElem? fun _ => getElem?_deepenAt_of_not_mem List.not_mem_nil

theorem modify_deepen (i : Nat) (records : List Record) :
    records.modify i Record.deepen = deepenAt [i] records := by
  refine List.ext_getElem? fun j => ?_
  by_cases h : i = j
  · rw [h, List.getElem?_modify_eq, getElem?_deepenAt_of_mem List.mem_cons_self]
    rfl
  · rw [List.getElem?_modify_ne _ _ h, getElem?_deepenAt_of_not_mem (by simpa using Ne.symm h)]

/-- Records that are put deeper in two turns. -/
theorem deepenAt_deepenAt (all : List Nat) (disjoint : ids.Disjoint ids')
    (both : ∀ i, i ∈ all ↔ i ∈ ids ∨ i ∈ ids') (records : List Record) :
    deepenAt ids (deepenAt ids' records) = deepenAt all records := by
  refine List.ext_getElem? fun i => ?_
  by_cases h : i ∈ ids
  · rw [getElem?_deepenAt_of_mem h, getElem?_deepenAt_of_not_mem (disjoint h),
      getElem?_deepenAt_of_mem ((both i).mpr (.inl h))]
  · rw [getElem?_deepenAt_of_not_mem h]
    by_cases h' : i ∈ ids'
    · rw [getElem?_deepenAt_of_mem h', getElem?_deepenAt_of_mem ((both i).mpr (.inr h'))]
    · rw [getElem?_deepenAt_of_not_mem h', getElem?_deepenAt_of_not_mem (by simp [both, h, h'])]

/-- What is met on a way is put one level deeper, and what is pending comes next. -/
theorem deepen_of_spells (h : Spells records start stop ids row) (last : stop = none) :
    ∀ (fuel : Nat) (pending : List Nat) (records' : List Record), ids.Nodup →
      (∀ i ∈ ids, records'[i]? = records[i]?) →
      Arena.deepen (ids.length + fuel) (start.toList ++ pending) records' =
        Arena.deepen fuel pending (deepenAt ids records') := by
  induction h with
  | nil link =>
    intro fuel pending records' _ _
    rw [last, deepenAt_nil, List.length_nil, Nat.zero_add]
    rfl
  | @cons i r n stop below later rest here content depth inner next ihc ih =>
    intro fuel pending records' nodup same
    obtain ⟨fresh, nodup⟩ := List.nodup_cons.mp nodup
    obtain ⟨nodupBelow, nodupLater, apart⟩ := List.nodup_append'.mp nodup
    obtain ⟨head, sameBelow, sameLater⟩ : _ ∧ _ ∧ _ := by
      simpa only [List.forall_mem_cons, List.forall_mem_append] using same
    rw [List.mem_append, not_or] at fresh
    obtain ⟨bound, -⟩ := List.getElem?_eq_some_iff.mp (head.trans here)
    have size : (i :: (below ++ later)).length + fuel = later.length + (below.length + fuel) + 1 := by
      simp only [List.length_cons, List.length_append]
      omega
    have kept : ∀ j ∈ below ++ later, (deepenAt [i] records')[j]? = records'[j]? := fun j mem =>
      getElem?_deepenAt_of_not_mem fun eq => absurd (List.mem_singleton.mp eq ▸ mem) (by simpa)
    have apart' : (below ++ later).Disjoint [i] := by simpa using fresh
    -- the later siblings are taken before what is below
    rw [size, Option.toList_some, List.singleton_append, Arena.deepen,
      look_eq_ok (head.trans here), ok_bind, change_eq_ok bound, ok_bind, modify_deepen,
      ih last _ _ _ nodupLater, ihc rfl _ _ _ nodupBelow,
      deepenAt_deepenAt (below ++ later) apart (by simp),
      deepenAt_deepenAt (i :: (below ++ later)) apart' (by simp [or_comm])]
    · intro j mem
      rw [getElem?_deepenAt_of_not_mem (apart mem), kept j (List.mem_append_left _ mem),
        sameBelow j mem]
    · intro j mem
      rw [kept j (List.mem_append_right _ mem), sameLater j mem]

/-! ### Levels -/

/-- The links that moves lead to, each with the number of moves to a first child on the way there;
the other moves are to a next sibling. -/
inductive Leads (records : List Record) (first : Option Nat) : Nat → Option Nat → Prop
  | stay : Leads records first 0 first
  | child {level i : Nat} {r : Record} : Leads records first level (some i) →
      records[i]? = some r → Leads records first (level + 1) r.firstChild
  | sibling {level i : Nat} {r : Record} : Leads records first level (some i) →
      records[i]? = some r → Leads records first level r.nextSibling

/-- Wherever moves lead, a row is spelled from there on that records its level. -/
theorem Leads.spells {first link : Option Nat} {level : Nat} (h : Leads records first level link)
    (whole : Spells records first none ids row) (leveled : Node.Leveled 0 row) :
    ∃ ids row, Spells records link none ids row ∧ Node.Leveled level row := by
  induction h with
  | stay => exact ⟨ids, row, whole, leveled⟩
  | child _ here ih =>
    obtain ⟨_, _, way, leveled⟩ := ih
    cases way with
    | cons here' _ _ inner _ =>
      cases here.symm.trans here'
      exact ⟨_, _, inner, (Node.leveled_cons.mp leveled).2.1⟩
  | sibling _ here ih =>
    obtain ⟨_, _, way, leveled⟩ := ih
    cases way with
    | cons here' _ _ _ next =>
      cases here.symm.trans here'
      exact ⟨_, _, next, (Node.leveled_cons.mp leveled).2.2⟩

/-- **Where a row that records its levels is spelled, so do the records that moves lead to.** -/
theorem Leads.depth_eq {first : Option Nat} {level : Nat} (h : Leads records first level (some i))
    (whole : Spells records first none ids row) (leveled : Node.Leveled 0 row) :
    ∃ r, records[i]? = some r ∧ r.depth = level := by
  obtain ⟨_, _, way, leveled⟩ := h.spells whole leveled
  cases way with
  | cons here _ depth _ _ => exact ⟨_, here, depth.trans (Node.leveled_cons.mp leveled).1⟩

end Stencil
