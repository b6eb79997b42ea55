import Stencil.Markup.Error
import Stencil.Text.CharClass
import Stencil.Text.Cut

/-!
# Markup — Piece

A source cut into pieces: texts, tags, and the markup that is neither. Nothing is lost: the pieces,
as they are written, make up the source again, up to the first piece that has no end
(`lexeme_append_of_markup?`).
-/

namespace Stencil.Markup

open Text

/-- The mark that ends a comment. -/
def commentEnd : List Char := ['-', '-', '>']

/-- What stands between the opening bracket of a CDATA section and its text. -/
def cdataWord : List Char := ['C', 'D', 'A', 'T', 'A', '[']

/-- The mark that ends a CDATA section. -/
def cdataEnd : List Char := [']', ']', '>']

/-- The mark that ends a processing instruction. -/
def instructionEnd : List Char := ['?', '>']

/-- The word that a document type declaration starts with. -/
def doctypeWord : List Char := ['d', 'o', 'c', 't', 'y', 'p', 'e']

/-- A piece of a source, by what stands between its delimiters. -/
inductive Piece where
  | text (raw : List Char)
  | startTag (content : List Char)
  | endTag (content : List Char)
  | comment (content : List Char)
  | cdata (content : List Char)
  | doctype (content : List Char)
  | instruction (content : List Char)
  deriving DecidableEq, Repr

/-- A piece as it is written. -/
def Piece.lexeme : Piece → List Char
  | .text raw => raw
  | .startTag content => '<' :: content ++ ['>']
  | .endTag content => '<' :: '/' :: content ++ ['>']
  | .comment content => '<' :: '!' :: '-' :: '-' :: content ++ commentEnd
  | .cdata content => '<' :: '!' :: '[' :: cdataWord ++ content ++ cdataEnd
  | .doctype content => '<' :: '!' :: content ++ ['>']
  | .instruction content => '<' :: '?' :: content ++ instructionEnd

/-- The content of a tag and what comes after it. The tag ends at the first `>` that does not stand
between quotes; `quote` is the quote that is open. -/
def tagEnd? (quote : Option Char) : List Char → Option (List Char × List Char)
  | [] => none
  | c :: rest =>
    match quote with
    | none =>
      if c = '>' then some ([], rest)
      else
        (tagEnd? (if c = '\x22' ∨ c = '\x27' then some c else none) rest).map
          fun (content, after) => (c :: content, after)
    | some q =>
      (tagEnd? (if c = q then none else some q) rest).map
        fun (content, after) => (c :: content, after)

/-- The content of a document type declaration and what comes after it. The declaration ends at the
first `>` that closes no `<` inside it; `depth` counts those still open. -/
def doctypeEnd? (depth : Nat) : List Char → Option (List Char × List Char)
  | [] => none
  | c :: rest =>
    if c = '>' ∧ depth = 0 then some ([], rest)
    else
      (doctypeEnd? (if c = '>' then depth - 1 else if c = '<' then depth + 1 else depth) rest).map
        fun (content, after) => (c :: content, after)

/-- The word that a document type declaration starts with, in letters of either case. -/
def isDoctypeWord (cs : List Char) : Bool := cs.map Char.toLower == doctypeWord

/-- The piece after `<!` and what comes after it. -/
def declaration? (s : List Char) : Except SyntaxFault (Piece × List Char) :=
  match s with
  | '-' :: rest =>
    match rest with
    | '-' :: body =>
      match cutAt? commentEnd body with
      | some (content, after) => .ok (.comment content, after)
      | none => .error .openComment
    | _ => .error .openComment
  | '[' :: rest =>
    match dropFront? cdataWord rest with
    | some body =>
      match cutAt? cdataEnd body with
      | some (content, after) => .ok (.cdata content, after)
      | none => .error .openCData
    | none => .error .openCData
  | c :: _ =>
    if c = 'D' ∨ c = 'd' then
      match doctypeEnd? 0 s with
      | some (content, after) =>
        if isDoctypeWord (content.take 7) then
          if (content.drop 7).all isTagBlank then .error .namelessDoctype
          else .ok (.doctype content, after)
        else .error .openDoctype
      | none => .error .openDoctype
    else .error .unknownMarkup
  | [] => .error .unknownMarkup

/-- The piece after `<` and what comes after it. -/
def markup? (s : List Char) : Except SyntaxFault (Piece × List Char) :=
  match s with
  | [] => .error .openTag
  | '!' :: rest => declaration? rest
  | '?' :: rest =>
    if rest.head? = some '>' then .error .openInstruction
    else
      match cutAt? instructionEnd rest with
      | some (content, after) => .ok (.instruction content, after)
      | none => .error .openInstruction
  | '/' :: rest =>
    match tagEnd? none rest with
    | some (content, after) => .ok (.endTag content, after)
    | none => .error .openTag
  | s =>
    match tagEnd? none s with
    | some (content, after) => .ok (.startTag content, after)
    | none => .error .openTag

theorem append_of_tagEnd? {quote : Option Char} {s content after : List Char}
    (h : tagEnd? quote s = some (content, after)) : content ++ '>' :: after = s := by
  induction s generalizing quote content with
  | nil => simp [tagEnd?] at h
  | cons c rest ih =>
    simp only [tagEnd?] at h
    split at h
    · split at h
      · next eq => cases h; simp [eq]
      · simp only [Option.map_eq_some_iff, Prod.mk.injEq, Prod.exists] at h
        obtain ⟨b, a, hb, rfl, rfl⟩ := h
        simp [ih hb]
    · simp only [Option.map_eq_some_iff, Prod.mk.injEq, Prod.exists] at h
      obtain ⟨b, a, hb, rfl, rfl⟩ := h
      simp [ih hb]

theorem append_of_doctypeEnd? {depth : Nat} {s content after : List Char}
    (h : doctypeEnd? depth s = some (content, after)) : content ++ '>' :: after = s := by
  induction s generalizing depth content with
  | nil => simp [doctypeEnd?] at h
  | cons c rest ih =>
    simp only [doctypeEnd?] at h
    split at h
    · next eq => cases h; simp [eq.1]
    · simp only [Option.map_eq_some_iff, Prod.mk.injEq, Prod.exists] at h
      obtain ⟨b, a, hb, rfl, rfl⟩ := h
      simp [ih hb]

theorem lexeme_append_of_declaration? {s after : List Char} {p : Piece}
    (h : declaration? s = .ok (p, after)) : p.lexeme ++ after = '<' :: '!' :: s := by
  unfold declaration? at h
  repeat' split at h
  all_goals simp only [Except.ok.injEq, Prod.mk.injEq, reduceCtorEq] at h
  · next cut => simp [← h.1, ← h.2, Piece.lexeme, ← append_of_cutAt? cut]
  · next front _ _ _ cut =>
    simp [← h.1, ← h.2, Piece.lexeme, ← append_of_dropFront? front, ← append_of_cutAt? cut]
  · next cut _ _ => simp [← h.1, ← h.2, Piece.lexeme, ← append_of_doctypeEnd? cut]

/-- A piece that is read, followed by what comes after it, is what was there to read. -/
theorem lexeme_append_of_markup? {s after : List Char} {p : Piece}
    (h : markup? s = .ok (p, after)) : p.lexeme ++ after = '<' :: s := by
  unfold markup? at h
  split at h
  · cases h
  · exact lexeme_append_of_declaration? h
  · repeat' split at h
    all_goals simp only [Except.ok.injEq, Prod.mk.injEq, reduceCtorEq] at h
    next cut => simp [← h.1, ← h.2, Piece.lexeme, ← append_of_cutAt? cut]
  · split at h
    all_goals simp only [Except.ok.injEq, Prod.mk.injEq, reduceCtorEq] at h
    next cut => simp [← h.1, ← h.2, Piece.lexeme, ← append_of_tagEnd? cut]
  · split at h
    all_goals simp only [Except.ok.injEq, Prod.mk.injEq, reduceCtorEq] at h
    next cut => simp [← h.1, ← h.2, Piece.lexeme, ← append_of_tagEnd? cut]

/-- Every piece of markup starts with its bracket. -/
theorem one_le_length_lexeme_of_markup? {s after : List Char} {p : Piece}
    (h : markup? s = .ok (p, after)) : 1 ≤ p.lexeme.length := by
  unfold markup? declaration? at h
  repeat' split at h
  all_goals simp only [Except.ok.injEq, Prod.mk.injEq, reduceCtorEq] at h
  all_goals simp [← h.1, Piece.lexeme]

theorem length_le_of_markup? {s after : List Char} {p : Piece}
    (h : markup? s = .ok (p, after)) : after.length ≤ s.length := by
  have nonempty := one_le_length_lexeme_of_markup? h
  have := congrArg List.length (lexeme_append_of_markup? h)
  simp only [List.length_append, List.length_cons] at this
  omega

/-- The pieces of a source up to the first fault, and that fault. -/
structure Pieces where
  pieces : List Piece
  fault : Option SyntaxFault
  deriving DecidableEq, Repr

/-- The pieces with one more in front. -/
def Pieces.cons (p : Piece) (ps : Pieces) : Pieces := { ps with pieces := p :: ps.pieces }

/-- Whether a character goes on with a text. -/
def inText (c : Char) : Bool := c != '<'

/-- A source cut into pieces. -/
def Pieces.ofSource (s : List Char) : Pieces :=
  match s with
  | [] => ⟨[], none⟩
  | c :: rest =>
    if c = '<' then
      match h : markup? rest with
      | .ok (p, after) =>
        have := length_le_of_markup? h
        (Pieces.ofSource after).cons p
      | .error fault => ⟨[], some fault⟩
    else
      have := (List.dropWhile_sublist inText (l := rest)).length_le
      (Pieces.ofSource (rest.dropWhile inText)).cons (.text (c :: rest.takeWhile inText))
termination_by s.length

end Stencil.Markup
