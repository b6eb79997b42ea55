import Stencil.Markup.Event

/-!
# Markup — concatenation

A source that is read to its end, followed by another one that starts with markup, is read as the
one and then as the other (`Pieces.ofSource_append`): nothing that is found in a text depends on
what comes behind it. Each function that looks for an end has its own lemma to this effect.
-/

namespace Stencil

namespace Text

variable {mark s before after : List Char}

theorem dropFront?_append (h : dropFront? mark s = some after) (t : List Char) :
    dropFront? mark (s ++ t) = some (after ++ t) := by
  induction mark generalizing s with
  | nil =>
    cases h
    rfl
  | cons m mark ih =>
    cases s with
    | nil => cases h
    | cons c s =>
      rw [dropFront?] at h
      split at h
      · next same =>
        rw [List.cons_append, dropFront?, if_pos same]
        exact ih h
      · cases h

/-- A text that does not start with a mark, though it is long enough, does not start with it when
it goes on. -/
theorem dropFront?_append_of_none (h : dropFront? mark s = none) (long : mark.length ≤ s.length)
    (t : List Char) : dropFront? mark (s ++ t) = none := by
  induction mark generalizing s with
  | nil => cases h
  | cons m mark ih =>
    cases s with
    | nil => cases long
    | cons c s =>
      rw [dropFront?] at h
      rw [List.cons_append, dropFront?]
      split at h
      · next same =>
        rw [if_pos same]
        exact ih h (Nat.le_of_succ_le_succ long)
      · next other => exact if_neg other

theorem cutAt?_append (h : cutAt? mark s = some (before, after)) (t : List Char) :
    cutAt? mark (s ++ t) = some (before, after ++ t) := by
  induction s generalizing before with
  | nil => cases h
  | cons c rest ih =>
    -- the mark is still to come, so what is left is long enough for it
    have long : mark.length ≤ (c :: rest).length := by
      have := congrArg List.length (append_of_cutAt? h)
      simp only [List.length_append] at this
      omega
    rw [cutAt?] at h
    rw [List.cons_append, cutAt?, ← List.cons_append]
    cases front : dropFront? mark (c :: rest) with
    | some found =>
      rw [front] at h
      cases h
      rw [dropFront?_append front]
    | none =>
      rw [front] at h
      simp only [Option.map_eq_some_iff, Prod.mk.injEq, Prod.exists] at h
      obtain ⟨b, a, found, rfl, rfl⟩ := h
      rw [dropFront?_append_of_none front long, ih found]
      rfl

end Text

namespace Markup

open Text

variable {s content after : List Char} {p : Piece}

theorem tagEnd?_append {quote : Option Char} (h : tagEnd? quote s = some (content, after))
    (t : List Char) : tagEnd? quote (s ++ t) = some (content, after ++ t) := by
  induction s generalizing quote content with
  | nil => cases h
  | cons c rest ih =>
    rw [List.cons_append]
    unfold tagEnd? at h ⊢
    cases quote with
    | none =>
      by_cases last : c = '>'
      · simp only [if_pos last] at h ⊢
        cases h
        rfl
      · simp only [if_neg last, Option.map_eq_some_iff, Prod.mk.injEq, Prod.exists] at h ⊢
        obtain ⟨b, a, found, rfl, rfl⟩ := h
        exact ⟨b, _, ih found, rfl, rfl⟩
    | some q =>
      simp only [Option.map_eq_some_iff, Prod.mk.injEq, Prod.exists] at h ⊢
      obtain ⟨b, a, found, rfl, rfl⟩ := h
      exact ⟨b, _, ih found, rfl, rfl⟩

theorem doctypeEnd?_append {depth : Nat} (h : doctypeEnd? depth s = some (content, after))
    (t : List Char) : doctypeEnd? depth (s ++ t) = some (content, after ++ t) := by
  induction s generalizing depth content with
  | nil => cases h
  | cons c rest ih =>
    rw [List.cons_append]
    unfold doctypeEnd? at h ⊢
    by_cases last : c = '>' ∧ depth = 0
    · simp only [if_pos last] at h ⊢
      cases h
      rfl
    · simp only [if_neg last, Option.map_eq_some_iff, Prod.mk.injEq, Prod.exists] at h ⊢
      obtain ⟨b, a, found, rfl, rfl⟩ := h
      exact ⟨b, _, ih found, rfl, rfl⟩

/-- A document type declaration, by its first letter and its end. -/
theorem declaration?_of_doctypeEnd? {c : Char} (letter : c = 'D' ∨ c = 'd')
    (found : doctypeEnd? 0 (c :: s) = some (content, after))
    (word : isDoctypeWord (content.take 7)) (named : ¬(content.drop 7).all isTagBlank) :
    declaration? (c :: s) = .ok (.doctype content, after) := by
  rcases letter with rfl | rfl
  · rw [declaration?, if_pos (.inl rfl), found]
    · simp only [if_pos word, if_neg named]
    · nofun
    · nofun
  · rw [declaration?, if_pos (.inr rfl), found]
    · simp only [if_pos word, if_neg named]
    · nofun
    · nofun

theorem declaration?_append (h : declaration? s = .ok (p, after)) (t : List Char) :
    declaration? (s ++ t) = .ok (p, after ++ t) := by
  unfold declaration? at h
  split at h
  · -- a comment
    split at h
    · split at h
      · next found =>
        cases h
        simp only [List.cons_append, declaration?, cutAt?_append found]
      · cases h
    · cases h
  · -- a CDATA section
    split at h
    · next front =>
      split at h
      · next found =>
        cases h
        simp only [List.cons_append, declaration?, dropFront?_append front, cutAt?_append found]
      · cases h
    · cases h
  · -- a document type declaration
    split at h
    · next letter =>
      split at h
      · next found =>
        split at h
        · next word =>
          split at h
          · cases h
          · next named =>
            cases h
            exact declaration?_of_doctypeEnd? letter (doctypeEnd?_append found t) word named
        · cases h
      · cases h
    · cases h
  · cases h

/-- A start tag, by its first letter and its end. -/
theorem markup?_of_tagEnd? {c : Char} (declared : c ≠ '!') (instruction : c ≠ '?') (ends : c ≠ '/')
    (found : tagEnd? none (c :: s) = some (content, after)) :
    markup? (c :: s) = .ok (.startTag content, after) := by
  rw [markup?, found]
  · nofun
  · exact fun _ same => declared (List.cons.inj same).1
  · exact fun _ same => instruction (List.cons.inj same).1
  · exact fun _ same => ends (List.cons.inj same).1

/-- **A piece of markup is read as such whatever comes behind it.** -/
theorem markup?_append (h : markup? s = .ok (p, after)) (t : List Char) :
    markup? (s ++ t) = .ok (p, after ++ t) := by
  unfold markup? at h
  split at h
  · cases h
  · exact declaration?_append h t
  · -- an instruction, which does not end right where it starts
    next rest =>
    split at h
    · cases h
    · next inside =>
      split at h
      · next found =>
        cases h
        cases rest with
        | nil => cases found
        | cons c rest =>
          have found := cutAt?_append found t
          rw [List.cons_append] at found
          rw [List.head?_cons] at inside
          simp only [List.cons_append, markup?, List.head?_cons, if_neg inside, found]
      · cases h
  · -- an end tag
    split at h
    · next found =>
      cases h
      simp only [List.cons_append, markup?, tagEnd?_append found]
    · cases h
  · -- a start tag
    next notDeclared notInstruction notEnd =>
    split at h
    · next found =>
      cases h
      cases s with
      | nil => cases found
      | cons c rest =>
        refine markup?_of_tagEnd? ?_ ?_ ?_ (tagEnd?_append found t)
        · exact fun same => notDeclared rest (by rw [same])
        · exact fun same => notInstruction rest (by rw [same])
        · exact fun same => notEnd rest (by rw [same])
    · cases h

/-! ### Sources -/

theorem takeWhile_inText_append {t : List Char} (tag : ∀ c ∈ t.head?, c = '<') (s : List Char) :
    (s ++ t).takeWhile inText = s.takeWhile inText := by
  induction s with
  | nil =>
    cases t with
    | nil => rfl
    | cons c rest => simp [inText, tag c rfl]
  | cons c rest ih => simp only [List.cons_append, List.takeWhile_cons, ih]

theorem dropWhile_inText_append {t : List Char} (tag : ∀ c ∈ t.head?, c = '<') (s : List Char) :
    (s ++ t).dropWhile inText = s.dropWhile inText ++ t := by
  induction s with
  | nil =>
    cases t with
    | nil => rfl
    | cons c rest => simp [inText, tag c rfl]
  | cons c rest ih =>
    simp only [List.cons_append, List.dropWhile_cons, ih]
    split
    · rfl
    · rfl

namespace Pieces

theorem ofSource_nil : ofSource [] = ⟨[], none⟩ := by rw [ofSource]

theorem ofSource_markup (h : markup? s = .ok (p, after)) :
    ofSource ('<' :: s) = (ofSource after).cons p := by
  rw [ofSource, if_pos rfl]
  split
  · next found =>
    cases h.symm.trans found
    rfl
  · next found => cases h.symm.trans found

theorem ofSource_fault {fault : SyntaxFault} (h : markup? s = .error fault) :
    ofSource ('<' :: s) = ⟨[], some fault⟩ := by
  rw [ofSource, if_pos rfl]
  split
  · next found => cases h.symm.trans found
  · next found =>
    cases h.symm.trans found
    rfl

theorem ofSource_text {c : Char} (h : c ≠ '<') (s : List Char) :
    ofSource (c :: s) = (ofSource (s.dropWhile inText)).cons (.text (c :: s.takeWhile inText)) := by
  rw [ofSource, if_neg h]

/-- **A source that is read to its end, followed by one that starts with markup, is read as the one
and then as the other.** -/
theorem ofSource_append {t : List Char} (tag : ∀ c ∈ t.head?, c = '<') (s : List Char)
    (sound : (ofSource s).fault = none) :
    ofSource (s ++ t) = ⟨(ofSource s).pieces ++ (ofSource t).pieces, (ofSource t).fault⟩ := by
  induction s using ofSource.induct with
  | case1 => rw [ofSource_nil]; rfl
  | case2 rest p after found _ ih =>
    rw [ofSource_markup found] at sound
    rw [List.cons_append, ofSource_markup found, ofSource_markup (markup?_append found t), ih sound]
    rfl
  | case3 rest fault found =>
    rw [ofSource_fault found] at sound
    cases sound
  | case4 c rest other _ ih =>
    rw [ofSource_text other] at sound
    rw [List.cons_append, ofSource_text other, ofSource_text other, takeWhile_inText_append tag,
      dropWhile_inText_append tag, ih sound]
    rfl

/-- A source that is read to its end, between two pieces of markup. -/
theorem ofSource_around {opening closing : List Char} {q : Piece}
    (opens : markup? opening = .ok (p, [])) (closes : markup? closing = .ok (q, []))
    (sound : (ofSource s).fault = none) :
    ofSource ('<' :: opening ++ (s ++ '<' :: closing)) =
      ⟨p :: ((ofSource s).pieces ++ [q]), none⟩ := by
  have last : ofSource ('<' :: closing) = ⟨[q], none⟩ := by
    rw [ofSource_markup closes, ofSource_nil]
    rfl
  rw [List.cons_append, ofSource_markup (markup?_append opens _), List.nil_append,
    ofSource_append (by simp) s sound, last]
  rfl

end Pieces

/-- What consecutive pieces say does not depend on where the first of them starts. -/
theorem map_snd_eventsFrom (position : Nat) (ps : List Piece) :
    (eventsFrom position ps).map (·.2) = ps.filterMap Piece.event? := by
  induction ps generalizing position with
  | nil => rfl
  | cons p rest ih =>
    rw [eventsFrom]
    cases said : p.event? with
    | none => rw [List.filterMap_cons_none said, ← ih]
    | some event => rw [List.filterMap_cons_some said, ← ih, List.map_cons]

end Markup

end Stencil
