import Mathlib
import Stencil.Proofs.Document.Positions
import Stencil.Proofs.Template.Flaws
import Stencil.Proofs.Template.Nested
import Stencil.Proofs.Template.Payload

/-!
# Template — positions of markup errors

The positions of markup errors count the bytes of the markup that a template stands for
(`Template.markup_error_position`). They are those of the template itself where no operator stands
in front; behind an operator, most of which are shorter than their markup, they may even lie outside
of the template (`Template.markup_error_behind_operator`).
-/

namespace Stencil

open Markup

namespace Template

variable {template : String} {e : MarkupError} {position : Nat} {t : Token} {ts : List Token}
  {before after s : List Char}

/-! ### Brackets in the markup of tokens -/

theorem not_mem_name (m : Marker) : '<' ∉ m.name.toList := by
  cases m <;> decide

theorem not_mem_attributeMarkup {key : String} (plain : '<' ∉ key.toList) (value : List Char) :
    '<' ∉ attributeMarkup key value := by
  simp [attributeMarkup, plain, not_mem_escape (show '<' ∈ markupChars by decide) (by decide)]

theorem Block.not_mem_attributeMarkup (b : Block) : '<' ∉ b.attributeMarkup := by
  cases b with
  | capture name => exact Template.not_mem_attributeMarkup (by decide) _
  | but | many | scope | either => exact List.not_mem_nil

/-- The markup of an operator has no bracket `<` but its first character. -/
theorem char_or_tag (t : Token) :
    (∃ c, t = .char c) ∨ ∃ tag, t.markup = '<' :: tag ∧ '<' ∉ tag := by
  cases t with
  | char c => exact .inl ⟨c, rfl⟩
  | something | option | closing b => exact .inr ⟨_, rfl, by simp [not_mem_name]⟩
  | opening b => exact .inr ⟨_, rfl, by simp [not_mem_name, b.not_mem_attributeMarkup]⟩
  | regex body => exact .inr ⟨_, rfl, by simp [not_mem_name, not_mem_attributeMarkup]⟩

/-- A bracket in the markup of a token is its first character. -/
theorem eq_nil_of_markup (h : t.markup = before ++ '<' :: after) : before = [] := by
  cases before with
  | nil => rfl
  | cons c before =>
    rcases char_or_tag t with ⟨d, rfl⟩ | ⟨tag, start, none⟩
    · simp [Token.markup] at h
    · obtain ⟨-, rfl⟩ := List.cons.inj (start.symm.trans h)
      exact absurd (List.mem_append_right before List.mem_cons_self) none

/-- A bracket in the markup of a row of tokens is where the markup of one of them starts. -/
theorem split_markup (ts : List Token) : ∀ {before after : List Char},
    ts.flatMap Token.markup = before ++ '<' :: after →
    ∃ front t back, ts = front ++ t :: back ∧ front.flatMap Token.markup = before ∧
      t.markup ++ back.flatMap Token.markup = '<' :: after := by
  induction ts with
  | nil => exact fun h => absurd h (by simp)
  | cons t ts ih =>
    intro before after h
    -- the bracket stands behind the markup of the first token, or in it
    have later {inner : List Char} (start : before = t.markup ++ inner)
        (h : ts.flatMap Token.markup = inner ++ '<' :: after) :
        ∃ front u back, t :: ts = front ++ u :: back ∧ front.flatMap Token.markup = before ∧
          u.markup ++ back.flatMap Token.markup = '<' :: after := by
      obtain ⟨front, u, back, rfl, rfl, here⟩ := ih h
      exact ⟨t :: front, u, back, rfl, by rw [List.flatMap_cons, start], here⟩
    rw [List.flatMap_cons] at h
    rcases List.append_eq_append_iff.mp h with ⟨inner, start, h⟩ | ⟨inner, start, h⟩
    · exact later start h
    · cases inner with
      | nil =>
        have whole : before = t.markup ++ [] := by rw [start, List.append_nil, List.append_nil]
        exact later whole h.symm
      | cons c inner =>
        obtain ⟨rfl, rfl⟩ := List.cons.inj h
        obtain rfl := eq_nil_of_markup start
        exact ⟨[], t, ts, rfl, rfl, by rw [start]; rfl⟩

/-- A bracket behind a byte order mark that is left out is one of the whole text. -/
theorem split_dropMark (h : dropMark s = before ++ '<' :: after) :
    ∃ front, s = front ++ '<' :: after ∧ dropMark front = before := by
  cases s with
  | nil => exact absurd h (by simp [dropMark])
  | cons c rest =>
    by_cases mark : c = '\ufeff'
    · subst mark
      exact ⟨'\ufeff' :: before, congrArg ('\ufeff' :: ·) h, rfl⟩
    · rw [dropMark_of_head? (by simpa using mark)] at h
      refine ⟨before, h, dropMark_of_head? ?_⟩
      cases before with
      | nil => simp
      | cons d before =>
        obtain ⟨rfl, -⟩ := List.cons.inj h
        simpa using mark

/-! ### Errors of compilation -/

/-- Markup errors are those of the markup that a template stands for. -/
theorem read_of_compile (reported : compile template = .error (.markup e)) :
    ∃ markup, expand template = .ok markup ∧ Document.read markup .strict = .error e := by
  rcases error_of_bind reported with refused | ⟨markup, expanded, reported⟩
  · exact absurd (offset_of_expand refused) (by simp [TemplateError.offset?])
  · refine ⟨markup, expanded, ?_⟩
    cases read : Document.read markup .strict with
    | error fault =>
      rw [read] at reported
      cases reported
      rfl
    | ok d =>
      rw [read] at reported
      rcases Pattern.ofDocument_cases d with ⟨-, -, empty⟩ |
        ⟨-, ⟨⟨p, compiled⟩, -⟩ | ⟨fault, refused, flaw⟩⟩
      · cases empty.symm.trans reported
      · cases compiled.symm.trans reported
      · cases refused.symm.trans reported
        obtain ⟨-, -, flaw⟩ := flaw
        cases flaw

/-- The token that an error is about is a bracket of the template, or a closing operator. -/
theorem token_of_offends {back : List Token}
    (start : t.markup ++ back.flatMap Token.markup = '<' :: after) (h : Offends after e) :
    t = .char '<' ∨ ∃ b, t = .closing b := by
  cases said : t.event? with
  | none =>
    cases t with
    | char c =>
      obtain ⟨rfl, -⟩ := List.cons.inj start
      exact .inl rfl
    | something | option | opening b | closing b | regex body => cases said
  | some event =>
    -- an operator is a piece of markup, and an end tag only if it closes
    obtain ⟨tag, p, tag_start, read, meaning⟩ := exists_piece said
    rw [tag_start] at start
    obtain ⟨-, rfl⟩ := List.cons.inj start
    have piece := markup?_append read (back.flatMap Token.markup)
    have ended {content behind : List Char}
        (ends : markup? (tag ++ back.flatMap Token.markup) = .ok (.endTag content, behind)) :
        ∃ b, t = .closing b := by
      cases piece.symm.trans ends
      cases meaning
      cases t with
      | closing b => exact ⟨b, rfl⟩
      | char c | something | option | opening b | regex body => cases said
    cases h with
    | noMarkup failed => cases piece.symm.trans failed
    | unmatched ends | mismatched ends => exact .inr (ended ends)

/-- An operator that closes has an opening one in front. -/
theorem opening_of_inPlace {front : List Token} {b : Block} (h : InPlace front (.closing b)) :
    .opening b ∈ front := by
  obtain ⟨outer, leaves⟩ := h
  have mem : .opening b ∈ brackets front := by
    generalize brackets front = row at leaves
    cases leaves with
    | more _ _ => exact List.mem_append_right _ List.mem_cons_self
  obtain ⟨u, here, is⟩ := List.mem_filterMap.mp mem
  cases u with
  | opening b' =>
    cases is
    exact here
  | closing b' => cases is
  | char c | something | option | regex body => cases is

/-- **Where the markup errors of a template are reported.** If a template does not compile and this
is reported at a byte of markup, then as many bytes of markup, a byte order mark left out, are what
some of the tokens of the template stand for, and the next token, a bracket `<` or the end of an
operator, starts the piece of markup that is reported. If the template starts with no byte order
mark and no operator stands in front of this token, it is a bracket, and stands at this byte of the
template. -/
theorem markup_error_position (reported : compile template = .error (.markup e))
    (at_ : e.position? = some position) :
    ∃ front t back,
      Tokens.ofSource template.toList = ⟨front ++ t :: back, none⟩ ∧
        template.toList = front.flatMap Token.lexeme ++ (t.lexeme ++ back.flatMap Token.lexeme) ∧
        position = byteLength (dropMark (front.flatMap Token.markup)) ∧
        (∃ after, t.markup ++ back.flatMap Token.markup = '<' :: after ∧ Offends after e) ∧
        (t = .char '<' ∨ ∃ b, t = .closing b ∧ .opening b ∈ front) ∧
        (template.toList.head? ≠ some '\ufeff' → OperatorFree front →
          t = .char '<' ∧ position = byteLength (front.flatMap Token.lexeme) ∧
            position < byteLength template.toList) := by
  obtain ⟨markup, expanded, read⟩ := read_of_compile reported
  obtain ⟨before, after, unmarked, rfl, offends⟩ := Document.offends_of_read read at_
  obtain ⟨text, found, rfl⟩ := ok_of_map expanded
  obtain ⟨whole, nested, rfl⟩ := expand_tokens_iff.mp found
  rw [String.toList_ofList] at unmarked
  obtain ⟨start, split, rfl⟩ := split_dropMark unmarked
  obtain ⟨front, t, back, tokens, rfl, here⟩ := split_markup _ split
  have lexemes := (scans_ofSource template.toList).lexemes whole
  rw [tokens, List.flatMap_append, List.flatMap_cons] at lexemes
  have token : t = .char '<' ∨ ∃ b, t = .closing b ∧ .opening b ∈ front := by
    rcases token_of_offends here offends with bracket | ⟨b, rfl⟩
    · exact .inl bracket
    · exact .inr ⟨b, rfl, opening_of_inPlace (nested.inPlace front _ back tokens)⟩
  refine ⟨front, t, back, by rw [← tokens, ← whole], lexemes.symm, rfl, ⟨after, here, offends⟩,
    token, fun noMark plain => ?_⟩
  rw [plain.markup]
  have bracket : t = .char '<' := by
    rcases token with bracket | ⟨b, -, mem⟩
    · exact bracket
    · obtain ⟨c, other⟩ := plain _ mem
      cases other
  have same : dropMark (front.flatMap Token.lexeme) = front.flatMap Token.lexeme := by
    refine dropMark_of_head? fun mark => noMark ?_
    rw [← lexemes, List.head?_append, mark, Option.some_or]
  refine ⟨bracket, by rw [same], ?_⟩
  rw [same, ← lexemes, bracket, byteLength_append, byteLength_append]
  have bytes : byteLength (Token.char '<').lexeme = 1 := rfl
  omega

/-- An end tag behind a letter of two bytes. -/
theorem markup_error_position_letter :
    compile "<p>ä</b></p>" = .error (.markup (.unmatchedEndTag 5 "b")) ∧
      5 < byteLength "<p>ä</b></p>".toList ∧
      ∃ before after, "<p>ä</b></p>".toList = before ++ '<' :: after ∧ byteLength before = 5 := by
  have reported : compile "<p>ä</b></p>" = .error (.markup (.unmatchedEndTag 5 "b")) := by cbv
  obtain ⟨front, t, back, tokens, split, -, -, -, here⟩ := markup_error_position reported rfl
  have plain : OperatorFree (Tokens.ofSource "<p>ä</b></p>".toList).tokens :=
    operatorFree_of_plain (by decide)
  rw [tokens] at plain
  obtain ⟨rfl, position, bound⟩ :=
    here (by decide) (plain.subset (List.subset_append_left front _))
  exact ⟨reported, bound, _, _, split, position.symm⟩

/-- An end tag behind a wildcard is reported at a byte that the template does not have. -/
theorem markup_error_behind_operator :
    compile "\x7b...\x7d</p>" = .error (.markup (.unmatchedEndTag 15 "p")) ∧
      byteLength "\x7b...\x7d</p>".toList < 15 := by
  constructor
  · cbv
  · decide

end Template

end Stencil
