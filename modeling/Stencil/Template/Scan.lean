import Stencil.Template.Operator
import Stencil.Text.CharClass
import Stencil.Text.Cut

/-!
# Template — Scan

A template cut into tokens. Nothing is lost: the tokens, as they are written, make up the template
again, up to the first regular expression that is empty or has no end (`lexeme_append_of_next?`).
-/

namespace Stencil.Template

open Text

/-- What can be wrong with a regular expression before it is looked into. -/
inductive RegexFault where
  | empty
  | unterminated
  deriving DecidableEq, Repr

/-- The operators that are written in one way only. -/
def fixedTokens : List Token :=
  [.option, .something] ++
    [Block.but, .many, .scope, .either].flatMap fun b => [.opening b, .closing b]

/-- The first token of a list that a text starts with, and what comes after it. -/
def fixed? (s : List Char) : Option (Token × List Char) :=
  fixedTokens.findSome? fun t => (dropFront? t.lexeme s).map (t, ·)

/-- The longest name at the start of a text, and what comes after the brace behind it. -/
def captureName? (s : List Char) : Option (String × List Char) :=
  match s.dropWhile isWordChar with
  | '\x7d' :: after => some (String.ofList (s.takeWhile isWordChar), after)
  | _ => none

/-- The body of a regular expression and what comes after its end, the first `/` before a closing
brace that no backslash escapes. A line of the body that starts with `<` means that the end is
missing; `lineStart` says that only white space stands between the last line end and the text. -/
def regexBody? (lineStart : Bool) : List Char → Option (List Char × List Char)
  | [] => none
  | '/' :: '\x7d' :: after => some ([], after)
  | '\\' :: c :: rest =>
    (regexBody? false rest).map fun (body, after) => ('\\' :: c :: body, after)
  | c :: rest =>
    if c = '<' ∧ lineStart = true then none
    else
      (regexBody? (c == '\n' || (isWhite c && lineStart)) rest).map
        fun (body, after) => (c :: body, after)

/-- The name in the closing operator of a capture, after its slash, and what comes after it. -/
def closingCapture? : List Char → Option (String × List Char)
  | '$' :: rest => captureName? rest
  | _ => none

/-- The operator that starts with a brace and a slash, after both, and what comes after it. -/
def slashed? (s : List Char) : Except RegexFault (Token × List Char) :=
  match closingCapture? s with
  | some (name, after) => .ok (.closing (.capture name), after)
  | none =>
    if s.head? = some '\x7d' then .error .empty
    else
      match regexBody? false s with
      | some (body, after) => .ok (.regex body, after)
      | none => .error .unterminated

/-- The token at the start of a text that begins with a character, and what comes after it. A brace
that starts no operator is a character. -/
def next? (c : Char) (rest : List Char) : Except RegexFault (Token × List Char) :=
  if c ≠ '\x7b' then .ok (.char c, rest)
  else
    match fixed? (c :: rest) with
    | some found => .ok found
    | none =>
      match rest with
      | '$' :: name =>
        match captureName? name with
        | some (name, after) => .ok (.opening (.capture name), after)
        | none => .ok (.char c, rest)
      | '/' :: rest => slashed? rest
      | _ => .ok (.char c, rest)

theorem append_of_fixed? {s after : List Char} {t : Token} (h : fixed? s = some (t, after)) :
    t.lexeme ++ after = s := by
  obtain ⟨u, _, hu⟩ := List.exists_of_findSome?_eq_some h
  simp only [Option.map_eq_some_iff, Prod.mk.injEq] at hu
  obtain ⟨_, eq, rfl, rfl⟩ := hu
  exact append_of_dropFront? eq

theorem append_of_captureName? {s after : List Char} {name : String}
    (h : captureName? s = some (name, after)) : name.toList ++ '\x7d' :: after = s := by
  unfold captureName? at h
  split at h
  · next eq =>
    simp only [Option.some.injEq, Prod.mk.injEq] at h
    rw [← h.1, String.toList_ofList, ← h.2, ← eq, List.takeWhile_append_dropWhile]
  · cases h

theorem append_of_closingCapture? {s after : List Char} {name : String}
    (h : closingCapture? s = some (name, after)) : '$' :: name.toList ++ '\x7d' :: after = s := by
  unfold closingCapture? at h
  split at h
  · simp [append_of_captureName? h]
  · cases h

theorem append_of_regexBody? {lineStart : Bool} {s body after : List Char}
    (h : regexBody? lineStart s = some (body, after)) : body ++ '/' :: '\x7d' :: after = s := by
  fun_induction regexBody? lineStart s generalizing body with
  | case1 => cases h
  | case2 => cases h; rfl
  | case3 _ _ _ ih =>
    simp only [Option.map_eq_some_iff, Prod.mk.injEq, Prod.exists] at h
    obtain ⟨_, _, eq, rfl, rfl⟩ := h
    simp [ih eq]
  | case4 => cases h
  | case5 _ _ _ _ _ _ ih =>
    simp only [Option.map_eq_some_iff, Prod.mk.injEq, Prod.exists] at h
    obtain ⟨_, _, eq, rfl, rfl⟩ := h
    simp [ih eq]

theorem append_of_slashed? {s after : List Char} {t : Token}
    (h : slashed? s = .ok (t, after)) : t.lexeme ++ after = '\x7b' :: '/' :: s := by
  unfold slashed? at h
  split at h
  · next eq =>
    simp only [Except.ok.injEq, Prod.mk.injEq] at h
    simpa [← h.1, ← h.2, Token.lexeme, Block.closing, Block.word] using
      append_of_closingCapture? eq
  · repeat' split at h
    all_goals simp only [Except.ok.injEq, Prod.mk.injEq, reduceCtorEq] at h
    next eq => simp [← h.1, ← h.2, Token.lexeme, append_of_regexBody? eq]

/-- A token that is read, followed by what comes after it, is what was there to read. -/
theorem lexeme_append_of_next? {c : Char} {rest after : List Char} {t : Token}
    (h : next? c rest = .ok (t, after)) : t.lexeme ++ after = c :: rest := by
  unfold next? at h
  split at h
  · simp only [Except.ok.injEq, Prod.mk.injEq] at h
    simp [← h.1, ← h.2, Token.lexeme]
  · next brace =>
    split at h
    · next eq =>
      simp only [Except.ok.injEq] at h
      exact append_of_fixed? (h ▸ eq)
    · simp only [ne_eq, Decidable.not_not] at brace
      split at h
      · split at h
        · next eq =>
          simp only [Except.ok.injEq, Prod.mk.injEq] at h
          simp [← h.1, ← h.2, Token.lexeme, Block.opening, Block.word, brace,
            append_of_captureName? eq]
        · simp only [Except.ok.injEq, Prod.mk.injEq] at h
          simp [← h.1, ← h.2, Token.lexeme]
      · simpa [brace] using append_of_slashed? h
      · simp only [Except.ok.injEq, Prod.mk.injEq] at h
        simp [← h.1, ← h.2, Token.lexeme]

theorem one_le_length_lexeme (t : Token) : 1 ≤ t.lexeme.length := by
  cases t <;> simp [Token.lexeme, Block.opening, Block.closing]

theorem length_le_of_next? {c : Char} {rest after : List Char} {t : Token}
    (h : next? c rest = .ok (t, after)) : after.length ≤ rest.length := by
  have := congrArg List.length (lexeme_append_of_next? h)
  have := one_le_length_lexeme t
  simp only [List.length_append, List.length_cons] at *
  omega

/-- The tokens of a template up to the first fault, and that fault. -/
structure Tokens where
  tokens : List Token
  fault : Option RegexFault
  deriving DecidableEq, Repr

/-- The tokens with one more in front. -/
def Tokens.cons (t : Token) (ts : Tokens) : Tokens := { ts with tokens := t :: ts.tokens }

/-- A template cut into tokens. -/
def Tokens.ofSource (s : List Char) : Tokens :=
  match s with
  | [] => ⟨[], none⟩
  | c :: rest =>
    match h : next? c rest with
    | .ok (t, after) =>
      have := length_le_of_next? h
      (Tokens.ofSource after).cons t
    | .error fault => ⟨[], some fault⟩
termination_by s.length

end Stencil.Template
