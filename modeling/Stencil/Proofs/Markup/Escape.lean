import Mathlib.Data.Bool.AllAny
import Stencil.Markup.Event

/-!
# Markup — escaped values

What is escaped is read as what it was: its references are resolved to the characters that they
stand for (`Markup.decodeReferences_escape`), it ends no quoted value and no tag
(`Markup.tagEnd?_quoted`), and as the value of an attribute it is the only one that is found
(`Markup.attributes_quoted`).
-/

namespace Stencil.Markup

open Text

variable {c : Char} {s after content key value word : List Char}

/-! ### References -/

/-- A reference whose word stands for a character is resolved to it. -/
theorem unescape?_reference (plain : ∀ c ∈ word, inReference c) (h : reference? word = some c)
    (s : List Char) : unescape? ('&' :: word ++ ';' :: s) = (unescape? s).map (c :: ·) := by
  have semicolon : ¬inReference ';' := by decide
  have behind := dropWhile_first plain semicolon s
  rw [List.cons_append, unescape?, if_pos rfl]
  split
  · next after eq =>
    cases behind.symm.trans eq
    rw [takeWhile_first plain semicolon, h]
    cases unescape? s with
    | none => rfl
    | some text => rfl
  · next other => exact absurd behind (other s)

theorem unescape?_of_ne (h : c ≠ '&') (s : List Char) :
    unescape? (c :: s) = (unescape? s).map (c :: ·) := by
  rw [unescape?, if_neg h]

/-- The characters that are not left as they are. -/
def markupChars : List Char := ['<', '>', '&', '\x27', '\x22']

/-- A character of markup is escaped as a reference of letters, and any other not at all. -/
theorem escapeChar_cases (c : Char) :
    (∃ word, escapeChar c = '&' :: word ++ [';'] ∧ (∀ d ∈ word, inReference d ∧ d ∉ markupChars) ∧
        reference? word = some c) ∨
      escapeChar c = [c] ∧ c ∉ markupChars := by
  by_cases special : c ∈ markupChars
  · refine .inl ?_
    simp only [markupChars, List.mem_cons, List.not_mem_nil, or_false] at special
    rcases special with rfl | rfl | rfl | rfl | rfl
    · exact ⟨['l', 't'], by decide, List.all_iff_forall_prop.mp (by decide), rfl⟩
    · exact ⟨['g', 't'], by decide, List.all_iff_forall_prop.mp (by decide), rfl⟩
    · exact ⟨['a', 'm', 'p'], by decide, List.all_iff_forall_prop.mp (by decide), rfl⟩
    · exact ⟨['a', 'p', 'o', 's'], by decide, List.all_iff_forall_prop.mp (by decide), rfl⟩
    · exact ⟨['q', 'u', 'o', 't'], by decide, List.all_iff_forall_prop.mp (by decide), rfl⟩
  · refine .inr ⟨?_, special⟩
    simp only [markupChars, List.mem_cons, List.not_mem_nil, or_false, not_or] at special
    simp only [escapeChar, special, if_false]

theorem unescape?_escapeChar (c : Char) (s : List Char) :
    unescape? (escapeChar c ++ s) = (unescape? s).map (c :: ·) := by
  rcases escapeChar_cases c with ⟨word, escaped, plain, stands⟩ | ⟨escaped, plain⟩
  · rw [escaped, List.append_assoc, List.singleton_append]
    exact unescape?_reference (fun d mem => (plain d mem).1) stands s
  · rw [escaped, List.singleton_append]
    refine unescape?_of_ne ?_ s
    rintro rfl
    exact plain (by decide)

theorem unescape?_escape (s : List Char) : unescape? (escape s) = some s := by
  induction s with
  | nil => rw [escape, List.flatMap_nil, unescape?]
  | cons c s ih =>
    rw [escape, List.flatMap_cons, unescape?_escapeChar, ← escape, ih, Option.map_some]

/-- **What is escaped is read as what it was.** -/
theorem decodeReferences_escape (s : List Char) : decodeReferences (escape s) = s := by
  rw [decodeReferences, unescape?_escape, Option.getD_some]

/-- A character of markup, other than the ampersand, is not left in what is escaped. -/
theorem not_mem_escape (special : c ∈ markupChars) (other : c ≠ '&') (s : List Char) :
    c ∉ escape s := by
  rw [escape, List.mem_flatMap]
  rintro ⟨d, -, mem⟩
  rcases escapeChar_cases d with ⟨word, escaped, plain, -⟩ | ⟨escaped, plain⟩
  · rw [escaped, List.mem_append, List.mem_cons, List.mem_singleton] at mem
    rcases mem with (ampersand | inside) | rfl
    · exact other ampersand
    · exact (plain c inside).2 special
    · exact absurd special (by decide)
  · rw [escaped, List.mem_singleton] at mem
    exact plain (mem ▸ special)

/-! ### Tags -/

/-- A tag goes on over what is neither a quote nor its end. -/
theorem tagEnd?_bare (bare : ∀ c ∈ word, c ∉ ['>', '\x22', '\x27'])
    (h : tagEnd? none s = some (content, after)) :
    tagEnd? none (word ++ s) = some (word ++ content, after) := by
  induction word with
  | nil => exact h
  | cons c word ih =>
    obtain ⟨noEnd, noDouble, noSingle⟩ : c ≠ '>' ∧ c ≠ '\x22' ∧ c ≠ '\x27' := by
      simpa using bare c List.mem_cons_self
    have later := ih fun c mem => bare c (List.mem_cons_of_mem _ mem)
    rw [List.cons_append, tagEnd?, if_neg noEnd, if_neg (not_or.mpr ⟨noDouble, noSingle⟩), later]
    rfl

/-- A tag goes on over a quoted value. -/
theorem tagEnd?_quoted (closed : '\x22' ∉ value) (h : tagEnd? none s = some (content, after)) :
    tagEnd? none ('\x22' :: value ++ '\x22' :: s) =
      some ('\x22' :: value ++ '\x22' :: content, after) := by
  have inside : tagEnd? (some '\x22') (value ++ '\x22' :: s) =
      some (value ++ '\x22' :: content, after) := by
    induction value with
    | nil =>
      rw [List.nil_append, tagEnd?]
      simp only [if_true, h]
      rfl
    | cons c value ih =>
      have other : c ≠ '\x22' := fun same => closed (same ▸ List.mem_cons_self)
      have later := ih fun mem => closed (List.mem_cons_of_mem _ mem)
      rw [List.cons_append, tagEnd?]
      simp only [if_neg other, later]
      rfl
  rw [List.cons_append, tagEnd?, if_neg (by decide), if_pos (.inl rfl), inside]
  rfl

/-! ### Attributes -/

theorem value?_quoted (closed : '\x22' ∉ value) :
    value? ('\x22' :: value ++ ['\x22']) = some (value, []) := by
  have start : ('\x22' :: value ++ ['\x22']).dropWhile isTagBlank = '\x22' :: (value ++ ['\x22']) :=
    List.dropWhile_cons_of_neg (by decide)
  rw [value?, start]
  simp only [true_or, if_true]
  rw [dropWhile_ne closed, takeWhile_ne closed]

/-- One attribute, with its value in quotes. -/
theorem rawAttributes_quoted (word : ∀ c ∈ key, inKey c) (given : key ≠ [])
    (closed : '\x22' ∉ value) :
    rawAttributes [] (' ' :: key ++ '=' :: '\x22' :: value ++ ['\x22']) = [(key, value)] := by
  obtain ⟨first, more, rfl⟩ := List.exists_cons_of_ne_nil given
  have noBlank : isTagBlank first = false := by
    have := word first List.mem_cons_self
    simp only [inKey, Bool.and_eq_true, Bool.not_eq_true'] at this
    exact this.2
  have inMore : ∀ c ∈ more, inKey c := fun c mem => word c (List.mem_cons_of_mem _ mem)
  have equals : ¬inKey '=' := by decide
  have start : (' ' :: (first :: more) ++ '=' :: '\x22' :: value ++ ['\x22']).dropWhile isTagBlank =
      first :: (more ++ '=' :: ('\x22' :: value ++ ['\x22'])) := by
    rw [List.cons_append, List.cons_append, List.dropWhile_cons_of_pos (by decide),
      List.cons_append, List.cons_append, List.dropWhile_cons_of_neg (by simp [noBlank]),
      List.append_assoc]
    rfl
  have keyEnd := takeWhile_first inMore equals ('\x22' :: value ++ ['\x22'])
  have behind : ((more ++ '=' :: ('\x22' :: value ++ ['\x22'])).dropWhile inKey).dropWhile
      isTagBlank = '=' :: ('\x22' :: value ++ ['\x22']) := by
    rw [dropWhile_first inMore equals, List.dropWhile_cons_of_neg (by decide)]
  have nothing : ∀ seen, rawAttributes seen [] = [] := by
    intro seen
    rw [rawAttributes]
    rfl
  rw [rawAttributes]
  split
  · next eq => cases start.symm.trans eq
  · next eq =>
    cases start.symm.trans eq
    rw [keyEnd]
    split
    · next eq =>
      cases behind.symm.trans eq
      rw [if_neg List.not_mem_nil]
      split
      · next found =>
        cases (value?_quoted closed).symm.trans found
        rw [nothing]
      · next found => cases (value?_quoted closed).symm.trans found
    · next other => exact absurd behind (other _)

/-- **An escaped value in quotes is read as what it was.** -/
theorem attributes_quoted (word : ∀ c ∈ key, inKey c) (given : key ≠ []) (value : List Char) :
    attributes (' ' :: key ++ '=' :: '\x22' :: escape value ++ ['\x22']) =
      [(lowerCase key, String.ofList value)] := by
  rw [attributes, rawAttributes_quoted word given (not_mem_escape (by decide) (by decide) value)]
  rw [List.map_singleton, decodeReferences_escape]

end Stencil.Markup
