/-!
# Text — Cut

Texts cut at a mark: the mark at the start of a text, and its first occurrence in it. A cut loses
nothing.
-/

namespace Stencil.Text

/-- Dropping from the front makes no text longer. -/
theorem length_dropWhile_le (p : Char → Bool) (s : List Char) :
    (s.dropWhile p).length ≤ s.length :=
  (List.dropWhile_sublist p).length_le

section First

variable {p : Char → Bool} {word : List Char} {c : Char}

/-- A text is read up to the first character that does not have a property. -/
theorem takeWhile_first (inside : ∀ c ∈ word, p c) (stop : ¬p c) (s : List Char) :
    (word ++ c :: s).takeWhile p = word := by
  rw [List.takeWhile_append_of_pos inside, List.takeWhile_cons_of_neg stop, List.append_nil]

theorem dropWhile_first (inside : ∀ c ∈ word, p c) (stop : ¬p c) (s : List Char) :
    (word ++ c :: s).dropWhile p = c :: s := by
  rw [List.dropWhile_append_of_pos inside, List.dropWhile_cons_of_neg stop]

theorem takeWhile_ne (h : c ∉ word) (s : List Char) :
    (word ++ c :: s).takeWhile (· != c) = word :=
  takeWhile_first (fun _ mem => bne_iff_ne.mpr (ne_of_mem_of_not_mem mem h)) (by simp) s

theorem dropWhile_ne (h : c ∉ word) (s : List Char) :
    (word ++ c :: s).dropWhile (· != c) = c :: s :=
  dropWhile_first (fun _ mem => bne_iff_ne.mpr (ne_of_mem_of_not_mem mem h)) (by simp) s

end First

/-- What follows a mark that a text starts with. -/
def dropFront? : List Char → List Char → Option (List Char)
  | [], s => some s
  | m :: mark, c :: s => if m = c then dropFront? mark s else none
  | _ :: _, [] => none

theorem append_of_dropFront? {mark s after : List Char} (h : dropFront? mark s = some after) :
    mark ++ after = s := by
  induction mark generalizing s with
  | nil => simpa [dropFront?] using h.symm
  | cons m mark ih =>
    cases s with
    | nil => simp [dropFront?] at h
    | cons c s =>
      simp only [dropFront?] at h
      split at h
      · next eq => simp [eq, ih h]
      · cases h

/-- What stands before the first occurrence of a mark in a text, and what after it. -/
def cutAt? (mark : List Char) : List Char → Option (List Char × List Char)
  | [] => none
  | c :: rest =>
    match dropFront? mark (c :: rest) with
    | some after => some ([], after)
    | none => (cutAt? mark rest).map fun (before, after) => (c :: before, after)

theorem append_of_cutAt? {mark s before after : List Char}
    (h : cutAt? mark s = some (before, after)) : before ++ mark ++ after = s := by
  induction s generalizing before with
  | nil => simp [cutAt?] at h
  | cons c rest ih =>
    simp only [cutAt?] at h
    split at h
    · next eq =>
      simp only [Option.some.injEq, Prod.mk.injEq] at h
      obtain ⟨rfl, rfl⟩ := h
      simpa using append_of_dropFront? eq
    · simp only [Option.map_eq_some_iff, Prod.mk.injEq, Prod.exists] at h
      obtain ⟨b, a, hb, rfl, rfl⟩ := h
      simp [← ih hb]

end Stencil.Text
