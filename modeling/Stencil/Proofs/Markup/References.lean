import Mathlib.Data.List.TakeWhile
import Stencil.Proofs.Markup.Escape

/-!
# Markup — references, each in its place

A reference is read as the character that it stands for, or stays as it is written, and neither
changes how the text around it is read (`Markup.decodeReferences_compositional`). What an ampersand
starts is decided by the text behind it up to the next semicolon (`Markup.Refers`), so each text is
taken apart in one way into references, ampersands that start none, and other characters
(`Markup.by_references`); both ways of resolving go by these parts.
-/

namespace Stencil.Markup

open Text

variable {c r : Char} {word s p q : List Char}

/-! ### What an ampersand starts -/

/-- Whether an ampersand in front of a text starts a reference that stands for a character. -/
def Refers (s : List Char) : Prop :=
  ∃ word after, s = word ++ ';' :: after ∧ (∀ c ∈ word, inReference c) ∧ (reference? word).isSome

/-- How the reference with a word is read. -/
def readReference (word : List Char) : List Char :=
  (reference? word).elim ('&' :: word ++ [';']) ([·])

theorem inReference_of_not_mem (noAmpersand : '&' ∉ word) (noSemicolon : ';' ∉ word) :
    ∀ c ∈ word, inReference c := by
  intro c mem
  have noAmpersand : c ≠ '&' := fun same => noAmpersand (same ▸ mem)
  have noSemicolon : c ≠ ';' := fun same => noSemicolon (same ▸ mem)
  simp [inReference, noAmpersand, noSemicolon]

theorem not_mem_of_inReference (plain : ∀ c ∈ word, inReference c) : '&' ∉ word ∧ ';' ∉ word :=
  ⟨fun mem => absurd (plain _ mem) (by decide), fun mem => absurd (plain _ mem) (by decide)⟩

theorem not_refers_of_not_mem (h : ';' ∉ s) : ¬Refers s := by
  rintro ⟨word, after, rfl, -⟩
  exact h (by simp)

/-- A text is cut in one way at the first place of a character. -/
theorem cut_unique {after after' : List Char} (h : c ∉ p) (h' : c ∉ q)
    (eq : p ++ c :: after = q ++ c :: after') : p = q := by
  rw [← takeWhile_ne h after, eq, takeWhile_ne h']

/-- The word of a reference is all that stands in front of the next semicolon. -/
theorem refers_iff {after : List Char} (h : ';' ∉ word) :
    Refers (word ++ ';' :: after) ↔ (∀ c ∈ word, inReference c) ∧ (reference? word).isSome := by
  constructor
  · rintro ⟨word', after', eq, plain, found⟩
    obtain rfl := cut_unique h (not_mem_of_inReference plain).2 eq
    exact ⟨plain, found⟩
  · rintro ⟨plain, found⟩
    exact ⟨word, after, rfl, plain, found⟩

/-- A text starts with a character other than an ampersand, with a reference that stands for a
character, or with an ampersand that starts none. -/
@[elab_as_elim] theorem by_references {motive : List Char → Prop} (nil : motive [])
    (char : ∀ c s, c ≠ '&' → motive s → motive (c :: s))
    (reference : ∀ word r s, (∀ c ∈ word, inReference c) → reference? word = some r → motive s →
      motive ('&' :: word ++ ';' :: s))
    (stray : ∀ s, ¬Refers s → motive s → motive ('&' :: s)) (s : List Char) : motive s := by
  -- a reference is taken away as a whole, so that the induction is on the length of the text
  induction len : s.length using Nat.strongRecOn generalizing s with
  | _ n ih =>
    rcases s with _ | ⟨c, s⟩
    · exact nil
    · by_cases ampersand : c = '&'
      · subst ampersand
        by_cases refers : Refers s
        · obtain ⟨word, after, rfl, plain, found⟩ := refers
          obtain ⟨r, found⟩ := Option.isSome_iff_exists.mp found
          refine reference word r after plain found (ih _ ?_ after rfl)
          rw [← len]
          simp
          omega
        · exact stray s refers (ih _ (by rw [← len]; simp) s rfl)
      · exact char c s ampersand (ih _ (by rw [← len]; simp) s rfl)

/-! ### The text as a whole -/

/-- An ampersand that starts no reference fails the text. -/
theorem unescape?_stray (h : ¬Refers s) : unescape? ('&' :: s) = none := by
  rw [unescape?, if_pos rfl]
  split
  · next after eq =>
    have split : s = s.takeWhile inReference ++ ';' :: after := by
      rw [← eq, List.takeWhile_append_dropWhile]
    have unknown : reference? (s.takeWhile inReference) = none := by
      by_contra known
      exact h ⟨_, after, split, fun c => List.mem_takeWhile_imp,
        Option.isSome_iff_ne_none.mpr known⟩
    rw [unknown]
  · rfl

/-! ### Each reference alone -/

theorem salvage_of_ne (h : c ≠ '&') (s : List Char) : salvage (c :: s) = c :: salvage s := by
  rw [salvage, if_neg h]

/-- Behind an ampersand, the text up to the next semicolon is resolved, or not. -/
theorem salvage_ampersand (h : ';' ∉ word) (s : List Char) :
    salvage ('&' :: word ++ ';' :: s) =
      (unescape? ('&' :: word ++ [';'])).elim ('&' :: salvage (word ++ ';' :: s))
        (· ++ salvage s) := by
  have behind := dropWhile_ne h s
  rw [List.cons_append, salvage, if_pos rfl]
  split
  · next after eq =>
    cases behind.symm.trans eq
    rw [takeWhile_ne h]
    cases unescape? ('&' :: word ++ [';']) with
    | some text => rfl
    | none => rfl
  · next other => exact absurd behind (other s)

theorem salvage_reference (plain : ∀ c ∈ word, inReference c) (h : reference? word = some r)
    (s : List Char) : salvage ('&' :: word ++ ';' :: s) = r :: salvage s := by
  rw [salvage_ampersand (not_mem_of_inReference plain).2, unescape?_reference plain h, unescape?]
  rfl

theorem salvage_stray (h : ¬Refers s) : salvage ('&' :: s) = '&' :: salvage s := by
  by_cases semicolon : ';' ∈ s
  · obtain ⟨word, after, rfl, first⟩ := List.eq_append_cons_of_mem semicolon
    have fails : unescape? ('&' :: (word ++ [';'])) = none :=
      unescape?_stray fun refers => h ((refers_iff first).mpr ((refers_iff first).mp refers))
    rw [← List.cons_append, salvage_ampersand first, List.cons_append, fails, Option.elim_none]
  · rw [salvage, if_pos rfl]
    split
    · next after eq =>
      exact absurd ((List.dropWhile_suffix _).subset (eq ▸ List.mem_cons_self)) semicolon
    · rfl

/-- **Resolving a text as a whole comes to what resolving each reference alone does.** -/
theorem salvage_of_unescape? {t : List Char} (h : unescape? s = some t) : salvage s = t := by
  induction s using by_references generalizing t with
  | nil =>
    rw [unescape?] at h
    cases h
    rw [salvage]
  | char c s other ih =>
    rw [unescape?_of_ne other, Option.map_eq_some_iff] at h
    obtain ⟨t, text, rfl⟩ := h
    rw [salvage_of_ne other, ih text]
  | reference word r s plain found ih =>
    rw [unescape?_reference plain found, Option.map_eq_some_iff] at h
    obtain ⟨t, text, rfl⟩ := h
    rw [salvage_reference plain found, ih text]
  | stray s none _ =>
    rw [unescape?_stray none] at h
    cases h

theorem decodeReferences_eq_salvage (s : List Char) : decodeReferences s = salvage s := by
  cases whole : unescape? s with
  | none => rw [decodeReferences, whole, Option.getD_none]
  | some t => rw [decodeReferences, whole, Option.getD_some, salvage_of_unescape? whole]

/-! ### Texts put together -/

/-- No ampersand of a text comes to start a reference by what an ampersand ends. -/
theorem not_refers_append (h : ¬Refers s) (q : List Char) : ¬Refers (s ++ '&' :: q) := by
  rintro ⟨word, after, eq, plain, found⟩
  have noAmpersand := (not_mem_of_inReference plain).1
  -- the word holds no ampersand, so that it ends in front of this one
  rcases List.append_eq_append_iff.mp eq with
    ⟨_ | ⟨d, more⟩, rfl, same⟩ | ⟨_ | ⟨d, more⟩, rfl, same⟩
  · cases same
  · cases same
    exact noAmpersand (by simp)
  · cases same
  · cases same
    exact h ⟨word, more, rfl, plain, found⟩

/-- **What comes before an ampersand is read on its own.** -/
theorem salvage_append_ampersand (p q : List Char) :
    salvage (p ++ '&' :: q) = salvage p ++ salvage ('&' :: q) := by
  induction p using by_references with
  | nil => rw [salvage, List.nil_append, List.nil_append]
  | char c p other ih =>
    rw [List.cons_append, salvage_of_ne other, salvage_of_ne other, ih, List.cons_append]
  | reference word r p plain found ih =>
    rw [List.append_assoc, List.cons_append (a := ';'), salvage_reference plain found,
      salvage_reference plain found, ih, List.cons_append]
  | stray p none ih =>
    rw [List.cons_append, salvage_stray none, salvage_stray (not_refers_append none q), ih,
      List.cons_append]

theorem salvage_append_of_not_mem (h : '&' ∉ p) (q : List Char) :
    salvage (p ++ q) = p ++ salvage q := by
  induction p with
  | nil => rfl
  | cons c p ih =>
    rw [List.mem_cons, not_or] at h
    rw [List.cons_append, salvage_of_ne (Ne.symm h.1), ih h.2, List.cons_append]

/-- A reference is read as its word says, whatever comes behind it. -/
theorem salvage_of_word (plain : ∀ c ∈ word, inReference c) (q : List Char) :
    salvage ('&' :: word ++ ';' :: q) = readReference word ++ salvage q := by
  obtain ⟨noAmpersand, noSemicolon⟩ := not_mem_of_inReference plain
  cases found : reference? word with
  | some r =>
    rw [salvage_reference plain found, readReference, found]
    rfl
  | none =>
    have none : ¬Refers (word ++ ';' :: q) := fun refers => by
      simpa [found] using ((refers_iff noSemicolon).mp refers).2
    rw [List.cons_append, salvage_stray none, salvage_append_of_not_mem noAmpersand,
      salvage_of_ne (by decide), readReference, found]
    simp

theorem salvage_of_not_refers (h : ∀ front behind, s = front ++ '&' :: behind → ¬Refers behind) :
    salvage s = s := by
  induction s with
  | nil => rw [salvage]
  | cons c s ih =>
    have rest : salvage s = s := ih fun front behind eq => h (c :: front) behind (by rw [eq]; rfl)
    by_cases ampersand : c = '&'
    · subst ampersand
      rw [salvage_stray (h [] s rfl), rest]
    · rw [salvage_of_ne ampersand, rest]

/-- **Each reference is read in its place.** A reference is read as the character that it stands
for, or as it is written, between the readings of what comes before it and of what comes behind it;
an ampersand that starts no reference that stands for a character is kept between the readings of
what is around it; a text without such a reference is read as it is; and resolving a text as a whole
comes to what resolving each reference alone does. -/
theorem decodeReferences_compositional (p q : List Char) :
    (∀ word, '&' ∉ word → ';' ∉ word →
      decodeReferences (p ++ '&' :: word ++ ';' :: q) =
        decodeReferences p ++ readReference word ++ decodeReferences q) ∧
    (¬Refers q →
      decodeReferences (p ++ '&' :: q) = decodeReferences p ++ '&' :: decodeReferences q) ∧
    ((∀ front behind, p = front ++ '&' :: behind → ¬Refers behind) → decodeReferences p = p) ∧
    decodeReferences p = salvage p := by
  simp only [decodeReferences_eq_salvage]
  refine ⟨fun word noAmpersand noSemicolon => ?_, fun none => ?_, salvage_of_not_refers, trivial⟩
  · rw [List.append_assoc, List.cons_append, salvage_append_ampersand, ← List.cons_append,
      salvage_of_word (inReference_of_not_mem noAmpersand noSemicolon), List.append_assoc]
  · rw [salvage_append_ampersand, salvage_stray none]

theorem decodeReferences_among_strays :
    decodeReferences "&#0;&amp;& b".toList = "&#0;&& b".toList ∧ ¬Refers " b".toList := by
  have none : ¬Refers " b".toList := not_refers_of_not_mem (by decide)
  have empty : decodeReferences [] = [] := (decodeReferences_compositional [] []).2.2.1 (by simp)
  have blank : decodeReferences " b".toList = " b".toList := by
    refine (decodeReferences_compositional " b".toList []).2.2.1 fun front behind eq => ?_
    have mem : '&' ∈ " b".toList := eq ▸ List.mem_append_right front List.mem_cons_self
    exact absurd mem (by decide)
  have stray : decodeReferences "& b".toList = "& b".toList := by
    have := (decodeReferences_compositional [] " b".toList).2.1 none
    rwa [empty, blank] at this
  have unknown : decodeReferences "&#0;".toList = "&#0;".toList := by
    have := (decodeReferences_compositional [] []).1 "#0".toList (by decide) (by decide)
    rwa [empty] at this
  have known := (decodeReferences_compositional "&#0;".toList "& b".toList).1 "amp".toList
    (by decide) (by decide)
  rw [unknown, stray] at known
  exact ⟨known, none⟩

end Stencil.Markup
