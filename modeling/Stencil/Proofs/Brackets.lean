import Mathlib.Data.List.Basic

/-!
# Brackets

Rows of opening and closing brackets. A row is well nested (`Bracket.WellNested`) if each closing
bracket closes the innermost open one and nothing stays open; a row that keeps to this as far as it
goes leaves brackets open (`Bracket.Leaves`), and no row leaves two different rows of brackets open
(`Bracket.Leaves.unique`).
-/

namespace Stencil

/-- A bracket that opens or closes something. -/
inductive Bracket (α : Type) where
  | opening (a : α)
  | closing (a : α)

namespace Bracket

variable {α : Type} {a b : α} {row row' before : List (Bracket α)} {left left' : List α}

/-- Each closing bracket closes the innermost open one, and nothing stays open. -/
inductive WellNested : List (Bracket α) → Prop
  | nil : WellNested []
  | pair {a : α} {inner after : List (Bracket α)} : WellNested inner → WellNested after →
      WellNested (.opening a :: (inner ++ .closing a :: after))

/-- Each closing bracket closes the innermost open one, and these stay open, the innermost first:
what stands between two of them is well nested. -/
inductive Leaves : List (Bracket α) → List α → Prop
  | nothing {row : List (Bracket α)} : WellNested row → Leaves row []
  | more {before row : List (Bracket α)} {a : α} {left : List α} : Leaves before left →
      WellNested row → Leaves (before ++ .opening a :: row) (a :: left)

theorem WellNested.append (h : WellNested row) (h' : WellNested row') :
    WellNested (row ++ row') := by
  induction h with
  | nil => exact h'
  | @pair a inner after hi _ _ ih =>
    rw [List.cons_append, List.append_assoc, List.cons_append]
    exact .pair hi ih

theorem wellNested_iff : WellNested row ↔ Leaves row [] :=
  ⟨.nothing, fun h => by cases h; assumption⟩

theorem Leaves.append (h : Leaves before left) (hr : WellNested row) :
    Leaves (before ++ row) left := by
  cases h with
  | nothing hb => exact .nothing (hb.append hr)
  | @more first between a left hf hb =>
    rw [List.append_assoc, List.cons_append]
    exact .more hf (hb.append hr)

theorem Leaves.opening (h : Leaves before left) (a : α) :
    Leaves (before ++ [.opening a]) (a :: left) := .more h .nil

theorem Leaves.closing (h : Leaves before (a :: left)) :
    Leaves (before ++ [.closing a]) left := by
  cases h with
  | @more first between a left hf hb =>
    have pair : WellNested (.opening a :: (between ++ [.closing a])) := .pair hb .nil
    rw [List.append_assoc, List.cons_append]
    exact hf.append pair

/-! ### What a row leaves open -/

section Track

variable [DecidableEq α]

/-- The open brackets behind a row, the innermost first, where some are open before it; none if a
closing bracket of the row does not close the innermost one. -/
def track : List α → List (Bracket α) → Option (List α)
  | left, [] => some left
  | left, .opening a :: row => track (a :: left) row
  | [], .closing _ :: _ => none
  | a :: left, .closing b :: row => if a = b then track left row else none

theorem track_closing_eq_some_iff {before : List α} :
    track before (.closing b :: row) = some left ↔
      ∃ outer, before = b :: outer ∧ track outer row = some left := by
  cases before with
  | nil => simp [track]
  | cons a outer =>
    by_cases same : a = b
    · simp [track, same]
    · simp [track, same]

theorem track_append (left : List α) (row row' : List (Bracket α)) :
    track left (row ++ row') = (track left row).bind (track · row') := by
  fun_induction track left row with
  | case1 left => rfl
  | case2 left a row ih => rw [List.cons_append, track, ih]
  | case3 b row => rw [List.cons_append, track]; rfl
  | case4 a left row ih => rw [List.cons_append, track, if_pos rfl, ih]
  | case5 a left b row other => rw [List.cons_append, track, if_neg other]; rfl

/-- Well nested brackets leave the open ones as they are. -/
theorem track_append_of_wellNested (h : WellNested row) (left : List α) (after : List (Bracket α)) :
    track left (row ++ after) = track left after := by
  induction h generalizing left after with
  | nil => rfl
  | @pair a inner later _ _ ihi iha =>
    rw [List.cons_append, track, List.append_assoc, ihi, List.cons_append, track, if_pos rfl, iha]

theorem track_append_of_leaves (h : Leaves row left) (after : List (Bracket α)) :
    track [] (row ++ after) = track left after := by
  induction h generalizing after with
  | nothing h => exact track_append_of_wellNested h [] after
  | more _ hr ih =>
    rw [List.append_assoc, ih, List.cons_append, track, track_append_of_wellNested hr]

theorem track_of_leaves (h : Leaves row left) : track [] row = some left := by
  rw [← List.append_nil row, track_append_of_leaves h, track]

/-- **No row leaves two different rows of brackets open.** -/
theorem Leaves.unique (h : Leaves row left) (h' : Leaves row left') : left = left' :=
  Option.some.inj ((track_of_leaves h).symm.trans (track_of_leaves h'))

/-- An opening bracket with a well nested row behind it stays open. -/
theorem not_wellNested_of_opening (h : WellNested row) :
    ¬ WellNested (before ++ .opening a :: row) := by
  intro whole
  have tracked := track_of_leaves (wellNested_iff.mp whole)
  rw [track_append] at tracked
  obtain ⟨left, -, tracked⟩ := Option.bind_eq_some_iff.mp tracked
  rw [track, ← List.append_nil row, track_append_of_wellNested h, track] at tracked
  cases tracked

/-- A closing bracket that does not close the innermost open one is never made good for. -/
theorem not_leaves_of_closing {after : List (Bracket α)} (h : Leaves before left)
    (other : left.head? ≠ some b) : ¬ Leaves (before ++ .closing b :: after) left' := by
  intro whole
  have tracked := track_of_leaves whole
  rw [track_append_of_leaves h] at tracked
  cases left with
  | nil => cases tracked
  | cons a left =>
    rw [track, if_neg fun same => other (congrArg some same)] at tracked
    cases tracked

end Track

end Bracket

end Stencil
