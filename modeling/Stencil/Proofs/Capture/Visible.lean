import Mathlib.Data.Prod.Lex
import Mathlib.Data.String.Basic
import Stencil.Proofs.Capture.Sharing
import Stencil.Proofs.Text.ByteOrder

/-!
# Capture — what shows of a scope

A scope lists what a look-up finds, in the order of the names, however the bindings of its frames
are gone through (`Scope.collects_iff`); and a merge is an update of its innermost frame. So it is
with stacks that share frames (`FrameStore.lookups_agree_and_merges_update`).
-/

namespace Stencil

namespace NameMap

variable {α : Type} {m : NameMap α} {row : List (String × α)} {n : String}

/-! ### Rows in any order -/

theorem distinct_of_perm {row' : List (String × α)} (distinct : row'.Pairwise (·.1 ≠ ·.1))
    (perm : row.Perm row') : row.Pairwise (·.1 ≠ ·.1) :=
  (perm.pairwise_iff Ne.symm).mpr distinct

/-- The order of bindings of distinct names does not matter to a look-up. -/
theorem lookup_of_perm {row' : List (String × α)} (distinct : row'.Pairwise (·.1 ≠ ·.1))
    (perm : row.Perm row') (n : String) : row.lookup n = row'.lookup n := by
  refine Option.ext fun value => ?_
  rw [lookup_eq_some_iff_of_distinct (distinct_of_perm distinct perm), perm.mem_iff,
    lookup_eq_some_iff_of_distinct distinct]

/-- The bindings of a map can be put into another one in any order. -/
theorem foldl_insert_of_perm {other : NameMap α} (perm : row.Perm other.toList) (m : NameMap α) :
    row.foldl (fun m b => m.insert b.1 b.2) m = m.merge other := by
  refine ext_get? fun n => ?_
  rw [get?_foldl_insert row (distinct_of_perm other.distinct perm), get?_merge,
    lookup_of_perm other.distinct perm]
  rfl

/-! ### First bindings -/

/-- A binding is added, if there is none of its name. -/
def addNew (seen : List (String × α)) (b : String × α) : List (String × α) :=
  if (seen.lookup b.1).isSome then seen else seen ++ [b]

/-- The first binding of each name in a row. -/
def firsts (row : List (String × α)) : List (String × α) := row.foldl addNew []

theorem lookup_addNew (seen : List (String × α)) (b : String × α) (n : String) :
    (addNew seen b).lookup n = (seen.lookup n).or (if n = b.1 then some b.2 else none) := by
  rw [addNew]
  split
  · next bound =>
    split
    · next same =>
      subst same
      obtain ⟨value, here⟩ := Option.isSome_iff_exists.mp bound
      rw [here, Option.some_or]
    · rw [Option.or_none]
  · rw [List.lookup_append, lookup_cons, List.lookup_nil]

theorem distinct_addNew {seen : List (String × α)} (h : seen.Pairwise (·.1 ≠ ·.1))
    (b : String × α) : (addNew seen b).Pairwise (·.1 ≠ ·.1) := by
  rw [addNew]
  split
  · exact h
  · next free =>
    refine List.pairwise_append.mpr ⟨h, List.pairwise_singleton _ _, fun a mem c mem' => ?_⟩
    obtain rfl := List.mem_singleton.mp mem'
    rw [Option.not_isSome_iff_eq_none, List.lookup_eq_none_iff] at free
    exact Ne.symm (bne_iff_ne.mp (free a mem))

theorem lookup_foldl_addNew (row seen : List (String × α)) (n : String) :
    (row.foldl addNew seen).lookup n = (seen.lookup n).or (row.lookup n) := by
  induction row generalizing seen with
  | nil => simp
  | cons b rest ih =>
    rw [List.foldl_cons, ih, lookup_addNew, lookup_cons, Option.or_assoc]
    split
    · rw [Option.some_or]
    · rw [Option.none_or]

theorem distinct_foldl_addNew (row : List (String × α)) {seen : List (String × α)}
    (h : seen.Pairwise (·.1 ≠ ·.1)) : (row.foldl addNew seen).Pairwise (·.1 ≠ ·.1) := by
  induction row generalizing seen with
  | nil => exact h
  | cons b rest ih => exact ih (distinct_addNew h b)

/-- A look-up among the first bindings finds what a look-up in the row finds. -/
theorem lookup_firsts (row : List (String × α)) (n : String) :
    (firsts row).lookup n = row.lookup n := by
  rw [firsts, lookup_foldl_addNew, List.lookup_nil, Option.none_or]

theorem distinct_firsts (row : List (String × α)) : (firsts row).Pairwise (·.1 ≠ ·.1) :=
  distinct_foldl_addNew row .nil

/-! ### Rows in order -/

/-- The order of bindings: by their names, and of one name by their values. -/
def bindingLE (a b : String × String) : Bool := decide (a.1 < b.1 ∨ a.1 = b.1 ∧ a.2 ≤ b.2)

theorem bindingLE_iff {a b : String × String} : bindingLE a b ↔ toLex a ≤ toLex b := by
  rw [bindingLE, decide_eq_true_iff, Prod.Lex.toLex_le_toLex]

/-- Bindings of distinct names in their order are those of the map that tells the same. -/
theorem mergeSort_eq_toList {m : NameMap String} {row : List (String × String)}
    (distinct : row.Pairwise (·.1 ≠ ·.1)) (same : ∀ n, row.lookup n = m.get? n) :
    row.mergeSort bindingLE = m.toList := by
  have trans (a b c : String × String) (h : bindingLE a b) (h' : bindingLE b c) : bindingLE a c :=
    bindingLE_iff.mpr ((bindingLE_iff.mp h).trans (bindingLE_iff.mp h'))
  have total (a b : String × String) : bindingLE a b || bindingLE b a := by
    rw [Bool.or_eq_true, bindingLE_iff, bindingLE_iff]
    exact le_total (toLex a) (toLex b)
  have ordered := List.pairwise_mergeSort trans total row
  have apart := distinct_of_perm distinct (List.mergeSort_perm row bindingLE)
  have sorted : (row.mergeSort bindingLE).Pairwise (·.1 < ·.1) := by
    refine (ordered.and apart).imp fun ⟨le, ne⟩ => ?_
    rw [bindingLE, decide_eq_true_iff] at le
    exact le.resolve_right fun eq => ne eq.1
  refine sorted.eq_of_mem_iff m.sorted fun ⟨n, value⟩ => ?_
  rw [List.mem_mergeSort, ← lookup_eq_some_iff_of_distinct distinct, same, get?_eq_some_iff]

end NameMap

namespace Scope

variable {s other : Scope}

theorem get?_foldr_merge (frames : List Frame) (name : String) :
    (frames.foldr (fun f m => m.merge f) NameMap.empty).get? name =
      frames.findSome? (·.get? name) := by
  induction frames with
  | nil => rfl
  | cons f rest ih =>
    rw [List.foldr_cons, NameMap.get?_merge, ih]
    exact (get?_eq ⟨f, rest⟩ name).symm

/-- **What shows is what a look-up finds.** -/
theorem get?_visible (s : Scope) (name : String) : s.visible.get? name = s.get? name :=
  get?_foldr_merge s.frames name

/-- A row of bindings that is collected from the frames of a scope: those of each frame are gone
through in some order, the frames from the innermost outward, the first of each name is taken, and
these are put in order. -/
inductive Collects (s : Scope) : List (String × String) → Prop
  | mk {rows : List (List (String × String))} {seen : List (String × String)} :
      List.Forall₂ (fun row f => row.Perm f.toList) rows s.frames →
      seen.Perm (NameMap.firsts rows.flatten) → Collects s (seen.mergeSort NameMap.bindingLE)

theorem lookup_flatten {rows : List (List (String × String))} {frames : List Frame}
    (h : List.Forall₂ (fun row f => row.Perm f.toList) rows frames) (name : String) :
    rows.flatten.lookup name = frames.findSome? (·.get? name) := by
  induction h with
  | nil => rfl
  | @cons row f rows rest perm _ ih =>
    rw [List.flatten_cons, List.lookup_append, ih, NameMap.lookup_of_perm f.distinct perm]
    exact (get?_eq ⟨f, rest⟩ name).symm

theorem eq_visible_of_collects {row : List (String × String)} (h : s.Collects row) :
    row = s.visible.toList := by
  cases h with
  | @mk rows seen each perm =>
    have distinct := NameMap.distinct_firsts rows.flatten
    refine NameMap.mergeSort_eq_toList (NameMap.distinct_of_perm distinct perm) fun name => ?_
    rw [NameMap.lookup_of_perm distinct perm, NameMap.lookup_firsts, lookup_flatten each,
      get?_visible, get?]

/-- **In whatever order the bindings are gone through, the same ones show.** -/
theorem collects_iff {row : List (String × String)} : s.Collects row ↔ row = s.visible.toList := by
  refine ⟨eq_visible_of_collects, ?_⟩
  rintro rfl
  have each : List.Forall₂ (fun row f => row.Perm f.toList) (s.frames.map (·.toList)) s.frames :=
    List.forall₂_map_left_iff.mpr (List.forall₂_same.mpr fun f _ => .refl f.toList)
  have collected := Collects.mk each (.refl _)
  rwa [eq_visible_of_collects collected] at collected

/-! ### Merges -/

/-- What a merge makes of a scope: the bindings of the innermost frame of the other one are put into
its innermost frame, and nothing else is changed. -/
structure Merged (s other merged : Scope) : Prop where
  get? (name : String) : merged.get? name = (other.innermost.get? name).or (s.get? name)
  outer : merged.outer = s.outer
  depth : merged.depth = s.depth
  /-- The bindings can be put in one after the other, in any order. -/
  put {row : List (String × String)} : row.Perm other.innermost.toList →
    merged.innermost = row.foldl (fun f b => f.insert b.1 b.2) s.innermost

theorem mergeInnermost_self (s : Scope) : s.mergeInnermost s = s := by
  rw [mergeInnermost, NameMap.merge_self]

theorem merged_mergeInnermost (s other : Scope) : s.Merged other (s.mergeInnermost other) where
  get? := get?_mergeInnermost s other
  outer := rfl
  depth := rfl
  put perm := (NameMap.foldl_insert_of_perm perm s.innermost).symm

section Rows

variable {scopes : List Scope} {i j : Nat} (here : scopes[i]? = some s)
  (there : scopes[j]? = some other)

include here there

theorem step_merge : step scopes (.merge i j) = scopes.set i (s.mergeInnermost other) := by
  rw [step, there]
  change List.modify _ _ _ = _
  rw [List.modify_eq_set_getElem?, here]
  rfl

/-- What is merged into a scope stays as it is, also where it is the scope itself. -/
theorem getElem?_step_merge : (step scopes (.merge i j))[j]? = some other := by
  rw [step_merge here there]
  by_cases same : i = j
  · subst same
    cases here.symm.trans there
    obtain ⟨bound, -⟩ := List.getElem?_eq_some_iff.mp here
    rw [s.mergeInnermost_self, List.getElem?_set_self bound]
  · rw [List.getElem?_set_ne same, there]

end Rows

/-! ### Listings -/

/-- A row that lists what a look-up in a scope finds, in the order of the bytes of the names. -/
structure Lists (s : Scope) (row : List (String × String)) : Prop where
  increasing : row.Pairwise fun a b => Text.bytes a.1 < Text.bytes b.1
  mem_iff (name value : String) : (name, value) ∈ row ↔ s.get? name = some value

theorem lists_visible (s : Scope) : s.Lists s.visible.toList where
  increasing := s.visible.sorted.imp (Text.lt_iff_bytes _ _).mp
  mem_iff name value := by rw [← NameMap.get?_eq_some_iff, get?_visible]

end Scope

namespace FrameStore

theorem run_append (commands : List StackCommand) (command : StackCommand) :
    run (commands ++ [command]) = (run commands).step command := by
  rw [run, List.foldl_append]
  rfl

/-- **The two look-ups agree, and a merge is an update.** Of stacks that are made, pushed to,
assigned to, copied, merged and given up in any order and share their frames on the way, each is the
scope that it would be if it had its frames for itself. What shows of it, however its frames are
gone through, is one row: what a look-up finds, in increasing order of the bytes of the names. And a
merge puts the bindings of one innermost frame into another one, and changes no other stack and
nothing else of the stack, also where the two stacks hold one frame. -/
theorem lookups_agree_and_merges_update (commands : List StackCommand) :
    (run commands).scopes = Scope.run commands ∧
    (∀ s ∈ (run commands).scopes,
      s.Lists s.visible.toList ∧ ∀ row, s.Collects row ↔ row = s.visible.toList) ∧
    ∀ i j s other, (run commands).scopes[i]? = some s → (run commands).scopes[j]? = some other →
      ∃ merged, s.Merged other merged ∧
        (run (commands ++ [.merge i j])).scopes = (run commands).scopes.set i merged ∧
        (run (commands ++ [.merge i j])).scopes[j]? = some other := by
  refine ⟨scopes_run commands, fun s _ => ⟨s.lists_visible, fun _ => Scope.collects_iff⟩,
    fun i j s other here there => ⟨_, s.merged_mergeInnermost other, ?_⟩⟩
  rw [run_append, scopes_step]
  exact ⟨Scope.step_merge here there, Scope.getElem?_step_merge here there⟩

/-- A stack, and a copy of it that has written to the frame that they shared. -/
theorem lookups_agree_and_merges_update_copy :
    let commands := [.fresh, .assign 0 "a" "1", .push 0, .assign 0 "b" "2", .clone 0,
      .assign 1 "b" "3"]
    let s : Scope := ⟨NameMap.empty.insert "b" "2", [NameMap.empty.insert "a" "1"]⟩
    let other : Scope := ⟨NameMap.empty.insert "b" "3", [NameMap.empty.insert "a" "1"]⟩
    (run commands).scopes = [s, other] ∧ s.Lists s.visible.toList ∧
      ∃ merged, s.Merged other merged ∧
        (run (commands ++ [.merge 0 1])).scopes = [merged, other] := by
  intro commands s other
  have all := lookups_agree_and_merges_update commands
  have scopes : (run commands).scopes = [s, other] := all.1
  obtain ⟨merged, is, after, -⟩ := all.2.2 0 1 s other (by rw [scopes]; rfl) (by rw [scopes]; rfl)
  refine ⟨scopes, (all.2.1 s (by simp [scopes])).1, merged, is, ?_⟩
  rw [after, scopes]
  rfl

end FrameStore

end Stencil
