import Mathlib.Data.List.TakeWhile
import Stencil.Template.Scan

/-!
# Template — scanning

What the tokens of a template are, told without the way in which they are found: an operator stands
where a text starts as this operator is written, and every other character stands for itself
(`Template.Scans`). A text is cut into tokens in one way (`Template.Scans.eq_ofSource`), up to the
first regular expression that is empty or has no end (`Template.scans_ofSource`).
-/

namespace Stencil.Template

open Text

variable {c : Char} {s rest body after : List Char} {name : String} {t : Token} {ts : List Token}
  {fault : Option RegexFault}

/-! ### The body of a regular expression -/

/-- A text that can stand between the delimiters of a regular expression. A backslash stands before
the character that it escapes, no `/` that is not escaped stands before a closing brace, and no line
starts with `<`; `lineStart` says that only white space stands between the last line end and the
text. -/
inductive Body : Bool → List Char → Prop
  | nothing {lineStart : Bool} : Body lineStart []
  | escaped {lineStart : Bool} {c : Char} {rest : List Char} : Body false rest →
      Body lineStart ('\\' :: c :: rest)
  | single {lineStart : Bool} {c : Char} {rest : List Char} : c ≠ '\\' →
      ¬(c = '<' ∧ lineStart = true) → ¬(c = '/' ∧ rest.head? = some '\x7d') →
      Body (c == '\n' || (isWhite c && lineStart)) rest → Body lineStart (c :: rest)

theorem body_of_regexBody? {lineStart : Bool} (h : regexBody? lineStart s = some (body, after)) :
    Body lineStart body := by
  fun_induction regexBody? lineStart s generalizing body with
  | case1 => cases h
  | case2 =>
    cases h
    exact .nothing
  | case3 lineStart c rest ih =>
    simp only [Option.map_eq_some_iff, Prod.mk.injEq, Prod.exists] at h
    obtain ⟨inner, _, found, rfl, rfl⟩ := h
    exact .escaped (ih found)
  | case4 => cases h
  | case5 lineStart c rest notEnd notEscape notTag ih =>
    simp only [Option.map_eq_some_iff, Prod.mk.injEq, Prod.exists] at h
    obtain ⟨inner, _, found, rfl, rfl⟩ := h
    have whole := append_of_regexBody? found
    refine .single ?_ notTag ?_ (ih found)
    · -- a backslash is followed by the character that it escapes
      rintro rfl
      obtain ⟨c, rest', rfl⟩ := List.exists_cons_of_ne_nil (l := rest) (by
        rw [← whole]
        exact List.append_ne_nil_of_right_ne_nil _ (List.cons_ne_nil _ _))
      exact notEscape c rest' rfl rfl
    · -- a slash that a brace follows is the end of the body
      rintro ⟨rfl, brace⟩
      obtain ⟨inner', rfl⟩ := List.head?_eq_some_iff.mp brace
      exact notEnd _ rfl whole.symm

/-- The body of a regular expression reaches up to the first place where it can end. -/
theorem regexBody?_of_body {lineStart : Bool} (h : Body lineStart body) (after : List Char) :
    regexBody? lineStart (body ++ '/' :: '\x7d' :: after) = some (body, after) := by
  induction h with
  | nothing => rw [List.nil_append, regexBody?]
  | escaped _ ih => rw [List.cons_append, List.cons_append, regexBody?, ih, Option.map_some]
  | @single lineStart c rest notEscape notTag notEnd _ ih =>
    rw [List.cons_append, regexBody?, if_neg notTag, ih, Option.map_some]
    · rintro after' rfl same
      cases rest with
      | nil => cases same
      | cons b rest' =>
        cases same
        exact notEnd ⟨rfl, rfl⟩
    · exact fun _ _ same _ => notEscape same

/-! ### Operators that are told by how they are written -/

/-- A name is made of word characters. -/
def IsName (name : String) : Prop := ∀ c ∈ name.toList, isWordChar c

/-- An operator that is written in one way: a keyword, or a capture with its name. -/
inductive Written : Token → Prop
  | keyword {t : Token} : t ∈ fixedTokens → Written t
  | opening {name : String} : IsName name → Written (.opening (.capture name))
  | closing {name : String} : IsName name → Written (.closing (.capture name))

/-- A text that starts with such an operator. -/
def StartsWritten (s : List Char) : Prop := ∃ t after, Written t ∧ s = t.lexeme ++ after

theorem fixed?_of_mem (mem : t ∈ fixedTokens) (after : List Char) :
    fixed? (t.lexeme ++ after) = some (t, after) := by
  simp only [fixedTokens, List.flatMap_cons, List.flatMap_nil, List.cons_append, List.nil_append,
    List.mem_cons, List.not_mem_nil, or_false] at mem
  rcases mem with rfl | rfl | rfl | rfl | rfl | rfl | rfl | rfl | rfl | rfl <;> rfl

theorem mem_of_fixed? (h : fixed? s = some (t, after)) : t ∈ fixedTokens := by
  obtain ⟨u, mem, found⟩ := List.exists_of_findSome?_eq_some h
  simp only [Option.map_eq_some_iff, Prod.mk.injEq] at found
  obtain ⟨_, _, rfl, _⟩ := found
  exact mem

/-- A name reaches up to the brace behind it, which is no word character. -/
theorem captureName?_of_isName (h : IsName name) (after : List Char) :
    captureName? (name.toList ++ '\x7d' :: after) = some (name, after) := by
  have brace : ¬isWordChar '\x7d' := by decide
  rw [captureName?, dropWhile_first h brace, takeWhile_first h brace, String.ofList_toList]
  rfl

theorem isName_of_captureName? (h : captureName? s = some (name, after)) : IsName name := by
  unfold captureName? at h
  split at h
  · cases h
    intro c mem
    rw [String.toList_ofList] at mem
    exact List.mem_takeWhile_imp mem
  · cases h

theorem next?_of_written (h : Written t) (after : List Char) :
    ∃ c rest, t.lexeme ++ after = c :: rest ∧ next? c rest = .ok (t, after) := by
  cases h with
  | keyword mem =>
    have found := fixed?_of_mem mem after
    obtain ⟨w, lexeme⟩ : ∃ w, t.lexeme = '\x7b' :: w := by
      simp only [fixedTokens, List.flatMap_cons, List.flatMap_nil, List.cons_append,
        List.nil_append, List.mem_cons, List.not_mem_nil, or_false] at mem
      rcases mem with rfl | rfl | rfl | rfl | rfl | rfl | rfl | rfl | rfl | rfl <;>
        exact ⟨_, rfl⟩
    rw [lexeme, List.cons_append] at found
    refine ⟨'\x7b', w ++ after, by rw [lexeme, List.cons_append], ?_⟩
    unfold next?
    rw [if_neg (by simp), found]
  | @opening name word =>
    have lexeme : (Token.opening (.capture name)).lexeme ++ after =
        '\x7b' :: '$' :: (name.toList ++ '\x7d' :: after) := by
      simp [Token.lexeme, Block.opening, Block.word]
    have other : fixed? ('\x7b' :: '$' :: (name.toList ++ '\x7d' :: after)) = none := rfl
    refine ⟨'\x7b', _, lexeme, ?_⟩
    rw [next?, if_neg (by simp), other]
    simp only [captureName?_of_isName word]
  | @closing name word =>
    have lexeme : (Token.closing (.capture name)).lexeme ++ after =
        '\x7b' :: '/' :: '$' :: (name.toList ++ '\x7d' :: after) := by
      simp [Token.lexeme, Block.closing, Block.word]
    have other : fixed? ('\x7b' :: '/' :: '$' :: (name.toList ++ '\x7d' :: after)) = none := rfl
    refine ⟨'\x7b', _, lexeme, ?_⟩
    rw [next?, if_neg (by simp), other]
    simp only [slashed?, closingCapture?, captureName?_of_isName word]

/-! ### Texts that start with no such operator -/

/-- A brace and a slash start a capture only with its `$` behind them. -/
theorem not_startsWritten_of_slash (none : fixed? ('\x7b' :: '/' :: s) = none)
    (noName : s.head? ≠ some '$') : ¬StartsWritten ('\x7b' :: '/' :: s) := by
  rintro ⟨t, after, word, start⟩
  cases word with
  | keyword mem =>
    have found := fixed?_of_mem mem after
    rw [← start, none] at found
    cases found
  | opening => simp [Token.lexeme, Block.opening, Block.word] at start
  | closing =>
    simp only [Token.lexeme, Block.closing, Block.word, List.cons_append, List.cons.injEq,
      true_and] at start
    exact noName (by rw [start]; rfl)

variable (h : ¬StartsWritten (c :: rest))

include h

theorem fixed?_eq_none : fixed? (c :: rest) = none := by
  cases found : fixed? (c :: rest) with
  | none => rfl
  | some pair =>
    exact absurd ⟨_, _, .keyword (mem_of_fixed? found), (append_of_fixed? found).symm⟩ h

omit h in
theorem captureName?_eq_none (h : ¬StartsWritten ('\x7b' :: '$' :: s)) : captureName? s = none := by
  cases found : captureName? s with
  | none => rfl
  | some pair =>
    refine absurd ⟨_, pair.2, .opening (isName_of_captureName? found), ?_⟩ h
    simp [Token.lexeme, Block.opening, Block.word, append_of_captureName? found]

omit h in
theorem closingCapture?_eq_none (h : ¬StartsWritten ('\x7b' :: '/' :: s)) :
    closingCapture? s = none := by
  unfold closingCapture?
  split
  · next rest =>
    cases found : captureName? rest with
    | none => rfl
    | some pair =>
      refine absurd ⟨_, pair.2, .closing (isName_of_captureName? found), ?_⟩ h
      simp [Token.lexeme, Block.closing, Block.word, append_of_captureName? found]
  · rfl

/-- Behind a brace and a slash stands a regular expression, if it is not the end of an operator. -/
theorem next?_of_slash (start : c :: rest = '\x7b' :: '/' :: s) :
    next? c rest =
      if s.head? = some '\x7d' then .error .empty
      else
        match regexBody? false s with
        | some (body, after) => .ok (.regex body, after)
        | none => .error .unterminated := by
  cases start
  rw [next?, if_neg (by simp), fixed?_eq_none h]
  change slashed? s = _
  unfold slashed?
  split
  · next closing => cases (closingCapture?_eq_none h).symm.trans closing
  · rfl

/-- A character that starts no operator stands for itself. -/
theorem next?_of_char (noSlash : ¬['\x7b', '/'] <+: c :: rest) :
    next? c rest = .ok (.char c, rest) := by
  unfold next?
  by_cases brace : c = '\x7b'
  · subst brace
    rw [if_neg (by simp), fixed?_eq_none h]
    dsimp only
    split
    · next name => rw [captureName?_eq_none h]
    · next rest' => exact absurd ⟨rest', rfl⟩ noSlash
    · rfl
  · rw [if_pos brace]

omit h

/-! ### The tokens of a text -/

/-- A text with its tokens, up to the first regular expression that is empty or has no end. -/
inductive Scans : List Char → List Token → Option RegexFault → Prop
  /-- Nothing has no tokens. -/
  | nothing : Scans [] [] none
  /-- A keyword, or a capture with its name. -/
  | written {t : Token} {after : List Char} {ts : List Token} {fault : Option RegexFault} :
      Written t → Scans after ts fault → Scans (t.lexeme ++ after) (t :: ts) fault
  /-- A regular expression. -/
  | regex {body after : List Char} {ts : List Token} {fault : Option RegexFault} :
      ¬StartsWritten ('\x7b' :: '/' :: (body ++ '/' :: '\x7d' :: after)) →
      body.head? ≠ some '\x7d' → Body false body → Scans after ts fault →
      Scans ('\x7b' :: '/' :: (body ++ '/' :: '\x7d' :: after)) (.regex body :: ts) fault
  /-- A character that starts none of these. -/
  | char {c : Char} {rest : List Char} {ts : List Token} {fault : Option RegexFault} :
      ¬StartsWritten (c :: rest) → ¬['\x7b', '/'] <+: c :: rest → Scans rest ts fault →
      Scans (c :: rest) (.char c :: ts) fault
  /-- A regular expression that is empty. -/
  | empty {rest : List Char} : Scans ('\x7b' :: '/' :: '\x7d' :: rest) [] (some .empty)
  /-- A regular expression that has no end. -/
  | unterminated {rest : List Char} : ¬StartsWritten ('\x7b' :: '/' :: rest) →
      rest.head? ≠ some '\x7d' →
      (∀ body after, Body false body → rest ≠ body ++ '/' :: '\x7d' :: after) →
      Scans ('\x7b' :: '/' :: rest) [] (some .unterminated)

theorem ofSource_of_next? (h : next? c rest = .ok (t, after)) :
    Tokens.ofSource (c :: rest) = (Tokens.ofSource after).cons t := by
  rw [Tokens.ofSource]
  split
  · next found =>
    cases h.symm.trans found
    rfl
  · next found => cases h.symm.trans found

theorem ofSource_of_fault {f : RegexFault} (h : next? c rest = .error f) :
    Tokens.ofSource (c :: rest) = ⟨[], some f⟩ := by
  rw [Tokens.ofSource]
  split
  · next found => cases h.symm.trans found
  · next found =>
    cases h.symm.trans found
    rfl

/-- The body of a regular expression is not empty if it does not start with a brace. -/
theorem head?_append_slash :
    (body ++ '/' :: s).head? = some '\x7d' ↔ body.head? = some '\x7d' := by
  cases body with
  | nil => simp
  | cons b body => simp

/-- **A text has no other tokens than those it is cut into.** -/
theorem Scans.eq_ofSource (h : Scans s ts fault) : Tokens.ofSource s = ⟨ts, fault⟩ := by
  induction h with
  | nothing => rw [Tokens.ofSource]
  | @written t after ts fault word _ ih =>
    obtain ⟨c, rest, start, first⟩ := next?_of_written word after
    rw [start, ofSource_of_next? first, ih]
    rfl
  | @regex body after ts fault other nonempty ends _ ih =>
    have first := next?_of_slash other rfl
    rw [if_neg (head?_append_slash.not.mpr nonempty), regexBody?_of_body ends after] at first
    rw [ofSource_of_next? first, ih]
    rfl
  | char other noSlash _ ih =>
    rw [ofSource_of_next? (next?_of_char other noSlash), ih]
    rfl
  | @empty rest =>
    -- no keyword is written with a slash and a brace behind it
    have other : ¬StartsWritten ('\x7b' :: '/' :: '\x7d' :: rest) :=
      not_startsWritten_of_slash rfl (by simp)
    exact ofSource_of_fault (next?_of_slash other rfl)
  | @unterminated rest other nonempty endless =>
    have none : regexBody? false rest = none := by
      cases found : regexBody? false rest with
      | none => rfl
      | some pair =>
        exact absurd (append_of_regexBody? found).symm (endless _ _ (body_of_regexBody? found))
    have first := next?_of_slash other rfl
    rw [if_neg nonempty, none] at first
    exact ofSource_of_fault first

/-- Every text is cut into tokens. -/
theorem exists_scans (s : List Char) : ∃ ts fault, Scans s ts fault := by
  -- an operator is taken away as a whole, so that the induction is on the length of the text
  induction hn : s.length using Nat.strongRecOn generalizing s with
  | ind n ih =>
    subst hn
    by_cases word : StartsWritten s
    · obtain ⟨t, after, word, rfl⟩ := word
      have := one_le_length_lexeme t
      obtain ⟨ts, fault, later⟩ := ih after.length (by rw [List.length_append]; omega) after rfl
      exact ⟨_, _, .written word later⟩
    · by_cases slash : ['\x7b', '/'] <+: s
      · obtain ⟨rest, rfl⟩ := slash
        by_cases empty : rest.head? = some '\x7d'
        · obtain ⟨rest, rfl⟩ := List.head?_eq_some_iff.mp empty
          exact ⟨_, _, .empty⟩
        · by_cases ends : ∃ body after, Body false body ∧ rest = body ++ '/' :: '\x7d' :: after
          · obtain ⟨body, after, ends, rfl⟩ := ends
            obtain ⟨ts, fault, later⟩ := ih after.length (by simp; omega) after rfl
            exact ⟨_, _, .regex word (head?_append_slash.not.mp empty) ends later⟩
          · exact ⟨_, _, .unterminated word empty fun body after body' eq =>
              ends ⟨body, after, body', eq⟩⟩
      · cases s with
        | nil => exact ⟨_, _, .nothing⟩
        | cons c rest =>
          obtain ⟨ts, fault, later⟩ := ih rest.length (by simp) rest rfl
          exact ⟨_, _, .char word slash later⟩

/-- **A text is cut into its tokens.** -/
theorem scans_ofSource (s : List Char) :
    Scans s (Tokens.ofSource s).tokens (Tokens.ofSource s).fault := by
  obtain ⟨ts, fault, scans⟩ := exists_scans s
  rw [scans.eq_ofSource]
  exact scans

/-- Nothing of a text that is cut to its end is lost: its tokens, as they are written, make it up
again. -/
theorem Scans.lexemes (h : Scans s ts fault) (whole : fault = none) :
    ts.flatMap Token.lexeme = s := by
  induction h with
  | nothing => rfl
  | written _ _ ih => rw [List.flatMap_cons, ih whole]
  | char _ _ _ ih =>
    rw [List.flatMap_cons, ih whole]
    rfl
  | regex _ _ _ _ ih =>
    rw [List.flatMap_cons, ih whole]
    simp [Token.lexeme]
  | empty | unterminated => cases whole

end Stencil.Template
