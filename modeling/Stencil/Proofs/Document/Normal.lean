import Mathlib.Data.List.TakeDrop
import Mathlib.Data.List.TakeWhile
import Stencil.Document.Normal

/-!
# Document — the normal form, case by case

Which `html` and which `body` a row of trees gets. A row that is not blank throughout is looked at
from its first node on that is not blank.
-/

namespace Stencil

namespace Document

variable {row : List Node}

theorem normalized_of_blank (h : visible row = []) : normalized row = row := by
  rw [normalized, h]

theorem withBody_of_body (h : (visible row).any (·.isNamed "body")) : withBody row = row :=
  if_pos h

theorem withBody_of_blank (h : visible row = []) :
    withBody row = [.element 1 "body" [] (row.map Node.deepen)] := by
  have blank : row.dropWhile (·.isBlank) = [] :=
    List.dropWhile_eq_nil_iff.mpr (by simpa [visible] using h)
  rw [withBody, if_neg (by simp [h]), List.span_eq_takeWhile_dropWhile, blank]

theorem map_completed_of_blank (h : ∀ m ∈ row, m.isBlank) : row.map completed = row := by
  refine (List.map_congr_left fun m mem => ?_).trans (List.map_id row)
  cases m with
  | element d name attributes cs => cases h _ mem
  | text d content => rfl

section First

variable {early late : List Node} {n : Node} (blank : ∀ m ∈ early, m.isBlank)
  (shown : n.isBlank = false)

include blank shown

theorem visible_append_cons : visible (early ++ n :: late) = n :: visible late := by
  rw [visible, List.filter_append, List.filter_eq_nil_iff.mpr (by simpa using blank),
    List.nil_append, List.filter_cons_of_pos (by simp [shown])]
  rfl

/-- An `html` that is alone, but for blank texts, is kept. -/
theorem normalized_of_html (alone : visible late = []) (html : n.isNamed "html") :
    normalized (early ++ n :: late) = early ++ completed n :: late := by
  have blank' : ∀ m ∈ late, m.isBlank := by simpa [visible] using alone
  rw [normalized, visible_append_cons blank shown, alone]
  change (if n.isNamed "html" then _ else _) = _
  rw [if_pos html, List.map_append, List.map_cons, map_completed_of_blank blank,
    map_completed_of_blank blank']

/-- An `html` is put around everything else. -/
theorem normalized_of_other (other : visible late = [] → ¬n.isNamed "html") :
    normalized (early ++ n :: late) =
      [.element 0 "html" [] (withBody ((early ++ n :: late).map Node.deepen))] := by
  rw [normalized, visible_append_cons blank shown]
  cases e : visible late with
  | nil => exact if_neg (other e)
  | cons m more => rfl

theorem span_isBlank : (early ++ n :: late).span (·.isBlank) = (early, n :: late) := by
  rw [List.span_eq_takeWhile_dropWhile, List.takeWhile_append_of_pos blank,
    List.dropWhile_append_of_pos blank]
  simp [shown]

/-- A `body` is put behind a leading `head`. -/
theorem withBody_of_head (h : ¬(visible (early ++ n :: late)).any (·.isNamed "body"))
    (head : n.isNamed "head") :
    withBody (early ++ n :: late) =
      early ++ [n, .element 1 "body" [] (late.map Node.deepen)] := by
  rw [withBody, if_neg h, span_isBlank blank shown]
  exact if_pos head

/-- A `body` is put around everything else. -/
theorem withBody_of_other (h : ¬(visible (early ++ n :: late)).any (·.isNamed "body"))
    (other : ¬n.isNamed "head") :
    withBody (early ++ n :: late) =
      [.element 1 "body" [] ((early ++ n :: late).map Node.deepen)] := by
  rw [withBody, if_neg h, span_isBlank blank shown]
  exact if_neg other

end First

end Document

end Stencil
