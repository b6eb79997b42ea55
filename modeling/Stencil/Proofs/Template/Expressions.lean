import Stencil.Proofs.Document.Positions
import Stencil.Proofs.Template.Nested
import Stencil.Proofs.Template.Payload

/-!
# Template — regular expressions in the scan

What becomes of a brace and a slash that the scan comes to and that start no other operator
(`Template.regex_scanned`). The body reaches up to the first `/` before a closing brace that no
backslash escapes (`Template.Ends`), and the expression is the body with each escaped slash without
its backslash (`Template.Writes`). A line of the body that starts with `<` is an error, unless a
backslash escapes the line end in front of it (`Template.escaped_line_end_hides_markup`).
-/

namespace Stencil.Template

open Text Markup

variable {c : Char} {source s rest body after front behind expression : List Char}
  {before : List Token} {t : Token} {nesting left : Nesting} {P : List Char → Prop}

/-! ### Escapes -/

/-- A text in which each backslash stands before the character that it escapes. What stands behind
it is not escaped. -/
inductive Paired : List Char → Prop
  | nil : Paired []
  | escape {c : Char} {s : List Char} : Paired s → Paired ('\\' :: c :: s)
  | char {c : Char} {s : List Char} : c ≠ '\\' → Paired s → Paired (c :: s)

/-- Such a text and the expression that it writes: an escaped slash without its backslash, every
other escape as it is. -/
inductive Writes : List Char → List Char → Prop
  | nil : Writes [] []
  | slash {s e : List Char} : Writes s e → Writes ('\\' :: '/' :: s) ('/' :: e)
  | escape {c : Char} {s e : List Char} : c ≠ '/' → Writes s e →
      Writes ('\\' :: c :: s) ('\\' :: c :: e)
  | char {c : Char} {s e : List Char} : c ≠ '\\' → Writes s e → Writes (c :: s) (c :: e)

/-- The expression that is read out of a body is the one that it writes. -/
theorem Paired.writes (h : Paired s) : Writes s (expressionOf s) := by
  induction h with
  | nil => exact .nil
  | @escape c s _ ih =>
    by_cases slash : c = '/'
    · subst slash
      rw [expressionOf]
      exact ih.slash
    · rw [expressionOf]
      · exact ih.escape slash
      · exact slash
  | @char c s other _ ih =>
    rw [expressionOf]
    · exact ih.char other
    · exact fun _ same _ => other same
    · exact fun _ _ same _ => other same

/-- A place of a text that no backslash escapes, such that the text from there on has a property. -/
def Unescaped (P : List Char → Prop) (s : List Char) : Prop :=
  ∃ front behind, Paired front ∧ s = front ++ behind ∧ P behind

theorem unescaped_nil : Unescaped P [] ↔ P [] := by
  constructor
  · rintro ⟨front, behind, -, eq, here⟩
    obtain ⟨-, rfl⟩ := List.append_eq_nil_iff.mp eq.symm
    exact here
  · exact fun here => ⟨[], [], .nil, rfl, here⟩

theorem unescaped_escape (none : ¬P ('\\' :: c :: s)) :
    Unescaped P ('\\' :: c :: s) ↔ Unescaped P s := by
  constructor
  · rintro ⟨front, behind, paired, eq, here⟩
    cases paired with
    | nil => exact absurd (eq ▸ here) none
    | @escape d front paired =>
      cases eq
      exact ⟨front, behind, paired, rfl, here⟩
    | char other _ => exact absurd (List.cons.inj eq).1.symm other
  · rintro ⟨front, behind, paired, rfl, here⟩
    exact ⟨_, behind, paired.escape, rfl, here⟩

theorem unescaped_char (other : c ≠ '\\') : Unescaped P (c :: s) ↔ P (c :: s) ∨ Unescaped P s := by
  constructor
  · rintro ⟨front, behind, paired, eq, here⟩
    cases paired with
    | nil => exact .inl (eq ▸ here)
    | escape _ => exact absurd (List.cons.inj eq).1 other
    | @char d front _ paired =>
      cases eq
      exact .inr ⟨front, behind, paired, rfl, here⟩
  · rintro (here | ⟨front, behind, paired, rfl, here⟩)
    · exact ⟨[], c :: s, .nil, rfl, here⟩
    · exact ⟨_, behind, paired.char other, rfl, here⟩

/-! ### Ends and lines -/

/-- The body of a regular expression reaches up to the first `/` before a closing brace that no
backslash escapes. -/
structure Ends (s body after : List Char) : Prop where
  paired : Paired body
  split : s = body ++ '/' :: '\x7d' :: after
  first : ∀ body' after', Paired body' → s = body' ++ '/' :: '\x7d' :: after' →
    body.length ≤ body'.length

theorem Ends.unique {body' after' : List Char} (h : Ends s body after) (h' : Ends s body' after') :
    body = body' := by
  have same := Nat.le_antisymm (h.first _ _ h'.paired h'.split) (h'.first _ _ h.paired h.split)
  exact (List.append_inj (h.split.symm.trans h'.split) same).1

/-- The end of a body has no other one in front. -/
theorem ends_iff :
    Ends s body after ↔
      s = body ++ '/' :: '\x7d' :: after ∧ Paired body ∧ ¬Unescaped (['/', '\x7d'] <+: ·) body := by
  constructor
  · rintro ⟨paired, split, first⟩
    refine ⟨split, paired, ?_⟩
    rintro ⟨front, _, earlier, rfl, behind, rfl⟩
    have := first front (behind ++ '/' :: '\x7d' :: after) earlier (by rw [split]; simp)
    simp at this
  · rintro ⟨split, paired, none⟩
    refine ⟨paired, split, fun body' after' earlier eq => ?_⟩
    -- an end in front of this one would lie in the body, since no brace stands before its slash
    rcases List.append_eq_append_iff.mp (split.symm.trans eq) with
      ⟨more, rfl, -⟩ | ⟨_ | ⟨_, _ | ⟨_, more⟩⟩, rfl, same⟩
    · simp
    · simp
    · cases same
    · cases same
      exact absurd ⟨body', _, earlier, rfl, more, rfl⟩ none

/-- A text whose first character that is no white space is `<`. -/
def StartsMarkup (s : List Char) : Prop :=
  ∃ blanks behind, s = blanks ++ '<' :: behind ∧ ∀ c ∈ blanks, isWhite c

theorem startsMarkup_cons : StartsMarkup (c :: s) ↔ c = '<' ∨ isWhite c ∧ StartsMarkup s := by
  constructor
  · rintro ⟨_ | ⟨d, blanks⟩, behind, eq, white⟩
    · cases eq
      exact .inl rfl
    · cases eq
      obtain ⟨first, white⟩ := List.forall_mem_cons.mp white
      exact .inr ⟨first, blanks, behind, rfl, white⟩
  · rintro (rfl | ⟨first, blanks, behind, rfl, white⟩)
    · exact ⟨[], s, rfl, by simp⟩
    · exact ⟨c :: blanks, behind, rfl, List.forall_mem_cons.mpr ⟨first, white⟩⟩

/-- A line end with a line behind it that starts with markup. -/
def MarkupLine (s : List Char) : Prop := ∃ line, s = '\n' :: line ∧ StartsMarkup line

/-- Whether a line of a text after its first one starts with markup. -/
def HasMarkupLine (s : List Char) : Prop := ∃ front behind, s = front ++ behind ∧ MarkupLine behind

theorem not_startsMarkup_escape (c : Char) (s : List Char) : ¬StartsMarkup ('\\' :: c :: s) := by
  rw [startsMarkup_cons]
  rintro (same | ⟨white, -⟩)
  · cases same
  · exact absurd white (by decide)

theorem markupLine_cons : MarkupLine (c :: s) ↔ c = '\n' ∧ StartsMarkup s := by
  constructor
  · rintro ⟨line, eq, markup⟩
    cases eq
    exact ⟨rfl, markup⟩
  · rintro ⟨rfl, markup⟩
    exact ⟨s, rfl, markup⟩

theorem end_cons : ['/', '\x7d'] <+: c :: s ↔ c = '/' ∧ s.head? = some '\x7d' := by
  rw [List.cons_prefix_cons, List.head?_eq_some_iff, eq_comm]
  refine and_congr_right fun _ => exists_congr fun behind => ?_
  rw [List.singleton_append, eq_comm]

theorem body_escape_iff {lineStart : Bool} : Body lineStart ('\\' :: c :: s) ↔ Body false s := by
  constructor
  · intro h
    cases h with
    | escaped later => exact later
    | single other _ _ _ => exact absurd rfl other
  · exact .escaped

theorem body_char_iff {lineStart : Bool} (other : c ≠ '\\') :
    Body lineStart (c :: s) ↔
      ¬(c = '<' ∧ lineStart = true) ∧ ¬(c = '/' ∧ s.head? = some '\x7d') ∧
        Body (c == '\n' || (isWhite c && lineStart)) s := by
  constructor
  · intro h
    cases h with
    | escaped _ => exact absurd rfl other
    | single _ noMarkup noEnd later => exact ⟨noMarkup, noEnd, later⟩
  · rintro ⟨noMarkup, noEnd, later⟩
    exact .single other noMarkup noEnd later

theorem Body.paired {lineStart : Bool} (h : Body lineStart s) : Paired s := by
  induction h with
  | nothing => exact .nil
  | escaped _ ih => exact ih.escape
  | single other _ _ _ ih => exact ih.char other

/-- What stands between the delimiters of a regular expression: a text with its escapes whole, with
no end in it and no line of markup behind a line end that is not escaped. -/
theorem Paired.body_iff (h : Paired s) : ∀ {lineStart : Bool},
    Body lineStart s ↔
      ¬Unescaped (['/', '\x7d'] <+: ·) s ∧ ¬(lineStart = true ∧ StartsMarkup s) ∧
        ¬Unescaped MarkupLine s := by
  induction h with
  | nil =>
    intro lineStart
    refine iff_of_true .nothing ⟨?_, ?_, ?_⟩
    · simp [unescaped_nil]
    · rintro ⟨-, blanks, behind, eq, -⟩
      exact absurd eq (by simp)
    · rw [unescaped_nil]
      rintro ⟨line, eq, -⟩
      cases eq
  | @escape c s _ ih =>
    intro lineStart
    rw [body_escape_iff, ih, unescaped_escape (by simp),
      unescaped_escape (by simp [markupLine_cons])]
    simp [not_startsMarkup_escape]
  | @char c s other _ ih =>
    intro lineStart
    -- white space and line ends hand on to the rest whether a line has started
    rw [body_char_iff other, ih, unescaped_char other, unescaped_char other, end_cons,
      markupLine_cons, startsMarkup_cons]
    simp only [Bool.or_eq_true, Bool.and_eq_true, beq_iff_eq]
    tauto

/-- **The body that is found is the one up to the first end**, if it has no line of markup behind a
line end that is not escaped. -/
theorem regexBody?_eq_some_iff :
    regexBody? false s = some (body, after) ↔ Ends s body after ∧ ¬Unescaped MarkupLine body := by
  rw [ends_iff]
  constructor
  · intro found
    have inside := body_of_regexBody? found
    have paired := inside.paired
    obtain ⟨none, -, noMarkup⟩ := paired.body_iff.mp inside
    exact ⟨⟨(append_of_regexBody? found).symm, paired, none⟩, noMarkup⟩
  · rintro ⟨⟨rfl, paired, none⟩, noMarkup⟩
    exact regexBody?_of_body (paired.body_iff.mpr ⟨none, by simp, noMarkup⟩) after

/-! ### The scan -/

/-- The tokens that the scan of a template has read, the operators that are open behind them, and
the text that it comes to. Each token is the one that the text starts with, and is in its place. -/
inductive Reaches (source : List Char) : List Token → Nesting → List Char → Prop
  | start : Reaches source [] [] source
  | step {before : List Token} {nesting left : Nesting} {c : Char} {rest after : List Char}
      {t : Token} : Reaches source before nesting (c :: rest) → next? c rest = .ok (t, after) →
      nesting.step (byteLength (before.flatMap Token.lexeme)) t = .ok left →
      Reaches source (before ++ [t]) left after

/-- What is read is the text in front of what the scan comes to. -/
theorem Reaches.lexemes (h : Reaches source before nesting s) :
    before.flatMap Token.lexeme ++ s = source := by
  induction h with
  | start => rfl
  | @step before _ _ c rest after t _ next _ ih =>
    rw [List.flatMap_append, List.flatMap_singleton, List.append_assoc,
      lexeme_append_of_next? next, ih]

/-- The tokens of a template are those that are read, and then those of what the scan comes to. -/
theorem Reaches.ofSource_eq (h : Reaches source before nesting s) :
    Tokens.ofSource source =
      ⟨before ++ (Tokens.ofSource s).tokens, (Tokens.ofSource s).fault⟩ := by
  induction h with
  | start => rfl
  | step _ next _ ih =>
    rw [ih, ofSource_of_next? next, List.append_assoc]
    rfl

/-- The operators that are read are nested well. -/
theorem Reaches.run_eq (h : Reaches source before nesting s) :
    Nesting.run 0 [] before = .ok (nesting, byteLength (before.flatMap Token.lexeme)) := by
  induction h with
  | start => rfl
  | @step before nesting left c rest after t _ _ step ih =>
    rw [run_append _ _ ih, Nesting.run, step, ok_bind, Nesting.run, List.flatMap_append,
      byteLength_append, List.flatMap_singleton]

/-- A regular expression that is empty or has no end is reported where it starts. -/
theorem Reaches.expand_of_fault {template : String} {f : RegexFault}
    (h : Reaches template.toList before nesting (c :: rest)) (fault : next? c rest = .error f) :
    expand template = .error (f.error (byteLength (before.flatMap Token.lexeme))) := by
  rw [expand, h.ofSource_eq, ofSource_of_fault fault, Tokens.expand]
  dsimp only
  rw [List.append_nil, h.run_eq]
  rfl

theorem Reaches.markup_of_expand {template markup : String}
    (h : Reaches template.toList before nesting s) (expanded : expand template = .ok markup) :
    markup.toList =
      before.flatMap Token.markup ++ (Tokens.ofSource s).tokens.flatMap Token.markup := by
  rw [Template.markup_of_expand expanded, h.ofSource_eq, List.flatMap_append]

/-- **Regular expressions in the scan.** Let the scan of a template come to a brace and a slash that
start no keyword and no capture, with no closing brace behind them. If no end follows, or if the
body up to the first end has a line of markup behind a line end that no backslash escapes, the
expression is reported as unterminated at this brace. Else one empty element stands for it, with
the expression that the body writes as its value, and the scan goes on right behind the end, with
the same operators open. Where no backslash escapes a line end of a body, every line of markup after
its first line counts. -/
theorem regex_scanned {template : String}
    (reached : Reaches template.toList before nesting ('\x7b' :: '/' :: s))
    (other : ¬StartsWritten ('\x7b' :: '/' :: s)) (given : s.head? ≠ some '\x7d') :
    template.toList = before.flatMap Token.lexeme ++ '\x7b' :: '/' :: s ∧
    ((¬∃ body after, Ends s body after) ∨
        (∃ body after, Ends s body after ∧ Unescaped MarkupLine body) →
      expand template =
        .error (.unterminatedRegex (byteLength (before.flatMap Token.lexeme)))) ∧
    (∀ body after, Ends s body after → ¬Unescaped MarkupLine body →
      Writes body (expressionOf body) ∧
        (∀ mode, Document.read (String.ofList (Token.regex body).markup) mode =
          .ok (alone "ep-regex" [("value", String.ofList (expressionOf body))])) ∧
        Reaches template.toList (before ++ [.regex body]) nesting after ∧
        ∀ markup, expand template = .ok markup →
          markup.toList = before.flatMap Token.markup ++ (Token.regex body).markup ++
            (Tokens.ofSource after).tokens.flatMap Token.markup) ∧
    ∀ body, (∀ front behind, body = front ++ '\n' :: behind → Paired front) →
      (Unescaped MarkupLine body ↔ HasMarkupLine body) := by
  have next := next?_of_slash other rfl
  rw [if_neg given] at next
  refine ⟨reached.lexemes.symm, fun unended => ?_, fun body after ends plain => ?_,
    fun body unescaped => ⟨?_, ?_⟩⟩
  · have none : regexBody? false s = none := by
      cases found : regexBody? false s with
      | none => rfl
      | some pair =>
        obtain ⟨ends, plain⟩ := regexBody?_eq_some_iff.mp found
        rcases unended with endless | ⟨body, after, ends', markup⟩
        · exact absurd ⟨_, _, ends⟩ endless
        · exact absurd (ends'.unique ends ▸ markup) plain
    rw [none] at next
    exact reached.expand_of_fault next
  · rw [regexBody?_eq_some_iff.mpr ⟨ends, plain⟩] at next
    have gone := reached.step next rfl
    refine ⟨ends.paired.writes, read_regex _, gone, fun markup expanded => ?_⟩
    rw [gone.markup_of_expand expanded, List.flatMap_append, List.flatMap_singleton]
  · exact fun ⟨front, behind, _, split, line⟩ => ⟨front, behind, split, line⟩
  · rintro ⟨front, _, rfl, line, rfl, markup⟩
    exact ⟨front, _, unescaped _ _ rfl, rfl, line, rfl, markup⟩

/-- An escaped slash and another escape, and a line of markup. -/
theorem regex_scanned_behind_letter :
    (Writes "a\\/b\\d".toList "a/b\\d".toList ∧
      Reaches "p\x7b/a\\/b\\d/\x7dq".toList [.char 'p', .regex "a\\/b\\d".toList] [] ['q']) ∧
      expand "p\x7b/a\n <b/\x7d" = .error (.unterminatedRegex 1) := by
  constructor
  · have reached : Reaches "p\x7b/a\\/b\\d/\x7dq".toList [.char 'p'] []
        ('\x7b' :: '/' :: "a\\/b\\d/\x7dq".toList) := .step .start rfl rfl
    have found : regexBody? false "a\\/b\\d/\x7dq".toList = some ("a\\/b\\d".toList, ['q']) := by
      cbv
    obtain ⟨ends, plain⟩ := regexBody?_eq_some_iff.mp found
    obtain ⟨-, -, scanned, -⟩ :=
      regex_scanned reached (not_startsWritten_of_slash rfl (by decide)) (by decide)
    obtain ⟨writes, -, reaches, -⟩ := scanned _ _ ends plain
    exact ⟨writes, reaches⟩
  · have reached : Reaches "p\x7b/a\n <b/\x7d".toList [.char 'p'] []
        ('\x7b' :: '/' :: "a\n <b/\x7d".toList) := .step .start rfl rfl
    have ends : Ends "a\n <b/\x7d".toList "a\n <b".toList [] := by
      refine ends_iff.mpr ⟨rfl, ?_, ?_⟩
      · exact .char (by decide) <| .char (by decide) <| .char (by decide) <| .char (by decide) <|
          .char (by decide) .nil
      · rintro ⟨front, _, -, eq, behind, rfl⟩
        have slash : '/' ∈ "a\n <b".toList := by
          rw [eq]
          simp
        exact absurd slash (by decide)
    obtain ⟨-, reported, -⟩ :=
      regex_scanned reached (not_startsWritten_of_slash rfl (by decide)) (by decide)
    have line : MarkupLine "\n <b".toList := ⟨" <b".toList, rfl, [' '], ['b'], rfl,
      List.forall_mem_singleton.mpr rfl⟩
    exact reported (.inr ⟨_, _, ends, ['a'], _, .char (by decide) .nil, rfl, line⟩)

/-- A line that starts with markup, behind a line end that a backslash escapes. -/
theorem escaped_line_end_hides_markup :
    Reaches "\x7b/a\\\n<b/\x7d".toList [] [] ('\x7b' :: '/' :: "a\\\n<b/\x7d".toList) ∧
      ¬StartsWritten ('\x7b' :: '/' :: "a\\\n<b/\x7d".toList) ∧
      Ends "a\\\n<b/\x7d".toList "a\\\n<b".toList [] ∧ HasMarkupLine "a\\\n<b".toList ∧
      expand "\x7b/a\\\n<b/\x7d" = .ok "<ep-regex value=\x22a\\\n&lt;b\x22/>" := by
  refine ⟨.start, not_startsWritten_of_slash rfl (by simp), ?_, ?_, ?_⟩
  · exact (regexBody?_eq_some_iff.mp (by cbv)).1
  · exact ⟨"a\\".toList, "\n<b".toList, rfl, "<b".toList, rfl, [], "b".toList, rfl, by simp⟩
  · cbv

end Stencil.Template
