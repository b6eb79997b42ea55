import Stencil.Proofs.Template.Expressions
import Stencil.Proofs.Template.Positions

/-!
# Template — empty expressions

Where the regular expressions of a compiled pattern come from: each tag in the markup of a template
is that of an operator, or starts with a bracket of the template itself (`Template.token_of_tag`).
So an expression is empty only where a regular expression of the template has nothing between its
delimiters, or where its element is written out in the template
(`Template.empty_expression_iff`). A brace and a slash with a closing brace right behind them are
reported; but two slashes are not (`Template.empty_expression_compiles`).
-/

namespace Stencil.Template

open Text Markup

variable {template : String} {ts front back : List Token} {t : Token} {e : Event} {q : Piece}
  {m : Marker} {given : Except TemplateError Kind} {body : List Char}

/-! ### Tags and the tokens that they come from -/

/-- In the markup of a row of tokens, a piece starts where the markup of its first tokens ends. -/
def StartsPiece (ts front : List Token) (q : Piece) : Prop :=
  ∃ before after, (Pieces.ofSource (dropMark (ts.flatMap Token.markup))).pieces =
      before ++ q :: after ∧
    dropMark (front.flatMap Token.markup) = before.flatMap Piece.lexeme

/-- The start of an element of a reserved name. -/
def Starts (m : Marker) (e : Event) : Prop :=
  ∃ attributes, e = .start m.name attributes ∨ e = .selfClosed m.name attributes

/-- A reserved element is written out: its tag starts with a bracket of the template itself. -/
def WrittenOut (m : Marker) (ts : List Token) : Prop :=
  ∃ front back q e, ts = front ++ .char '<' :: back ∧ StartsPiece ts front q ∧
    q.event? = some e ∧ Starts m e

theorem starts_of_asked? (h : asked? e = some given) :
    ∃ m attributes, given = asked m attributes ∧
      (e = .start m.name attributes ∨ e = .selfClosed m.name attributes) := by
  have named {name : String} {attributes : List Attribute}
      (h : (Marker.ofName? name).map (asked · attributes) = some given) :
      ∃ m, given = asked m attributes ∧ name = m.name := by
    obtain ⟨m, found, rfl⟩ := Option.map_eq_some_iff.mp h
    exact ⟨m, rfl, (by simpa using List.find?_some found : m.name = name).symm⟩
  cases e with
  | start name attributes =>
    obtain ⟨m, eq, rfl⟩ := named h
    exact ⟨m, attributes, eq, .inl rfl⟩
  | selfClosed name attributes =>
    obtain ⟨m, eq, rfl⟩ := named h
    exact ⟨m, attributes, eq, .inr rfl⟩
  | finish name | text content => cases h

/-- A piece that says more than a text starts with a bracket. -/
theorem bracket_of_starts {s : List Char} {rest : List Piece} {f : Option SyntaxFault}
    (cut : Pieces.ofSource s = ⟨q :: rest, f⟩) (event : q.event? = some e) (starts : Starts m e) :
    ∃ tag after, s = '<' :: tag ∧ markup? tag = .ok (q, after) := by
  rcases Pieces.ofSource_cases s with ⟨-, cut'⟩ | ⟨tag, fault, -, -, cut'⟩ |
    ⟨tag, p, after, start, read, cut'⟩ | ⟨raw, after, -, cut'⟩
  · cases cut'.symm.trans cut
  · cases cut'.symm.trans cut
  · cases cut'.symm.trans cut
    exact ⟨tag, after, start, read⟩
  · cases cut'.symm.trans cut
    obtain ⟨attributes, rfl | rfl⟩ := starts
    · cases event
    · cases event

/-- Behind the pieces in front of it, a source is read on from a piece. -/
theorem exists_behind {s : List Char} {before after : List Piece}
    (pieces : (Pieces.ofSource s).pieces = before ++ q :: after) :
    ∃ rest, s = before.flatMap Piece.lexeme ++ rest ∧
      Pieces.ofSource rest = ⟨q :: after, (Pieces.ofSource s).fault⟩ :=
  Pieces.ofSource_behind_all before (by rw [← pieces])

/-- An operator in text starts a piece. -/
theorem exists_startsPiece (inText : InText front) (event : t.event? = some e)
    (back : List Token) : ∃ q, StartsPiece (front ++ t :: back) front q := by
  obtain ⟨tag, p, start, read, -⟩ := exists_piece event
  have whole : Pieces.ofSource (dropMark (front.flatMap Token.markup)) =
      ⟨(Pieces.ofSource (dropMark (front.flatMap Token.markup))).pieces ++ [], none⟩ := by
    rw [List.append_nil, ← inText]
  obtain ⟨rest, split, ends⟩ := Pieces.ofSource_behind_all _ whole
  obtain rfl : rest = [] := by
    rcases Pieces.ofSource_cases rest with ⟨nothing, -⟩ | ⟨_, _, -, -, cut⟩ | ⟨_, _, _, -, -, cut⟩ |
      ⟨_, _, -, cut⟩
    · exact nothing
    · cases cut.symm.trans ends
    · cases cut.symm.trans ends
    · cases cut.symm.trans ends
  refine ⟨p, _, (Pieces.ofSource (back.flatMap Token.markup)).pieces, ?_, by simpa using split⟩
  rw [dropMark_around event, start, List.cons_append, Pieces.ofSource_append (by simp) _ inText,
    Pieces.ofSource_markup (markup?_append read _)]
  rfl

/-- Where the markup of an operator starts a piece, this piece is the whole of it. -/
theorem event?_of_startsPiece (cut : ts = front ++ t :: back) (starts : StartsPiece ts front q)
    (event : t.event? = some e) : q.event? = some e := by
  obtain ⟨before, after, pieces, ends⟩ := starts
  obtain ⟨rest, split, later⟩ := exists_behind pieces
  obtain ⟨tag, p, start, read, said⟩ := exists_piece event
  obtain rfl : t.markup ++ back.flatMap Token.markup = rest := by
    rw [cut, dropMark_around event, ends] at split
    exact List.append_cancel_left split
  rw [start, List.cons_append, Pieces.ofSource_markup (markup?_append read _)] at later
  obtain ⟨same, -⟩ := Pieces.mk.inj later
  rw [← (List.cons.inj same).1, said]

/-- **Where a tag comes from.** The tag of a reserved element in the markup of a row of tokens is
that of an operator, or starts with a bracket that is one of the tokens. -/
theorem token_of_tag (mem : e ∈ said (dropMark (ts.flatMap Token.markup))) (starts : Starts m e) :
    ∃ front t back q, ts = front ++ t :: back ∧ StartsPiece ts front q ∧ q.event? = some e ∧
      (t = .char '<' ∨ t.event? = some e) := by
  obtain ⟨q, mem, event⟩ := List.mem_filterMap.mp mem
  obtain ⟨before, after, pieces⟩ := List.append_of_mem mem
  obtain ⟨rest, split, later⟩ := exists_behind pieces
  obtain ⟨tag, behind, rfl, -⟩ := bracket_of_starts later event starts
  obtain ⟨start, whole, ends⟩ := split_dropMark split
  obtain ⟨front, t, back, rfl, rfl, here⟩ := split_markup _ whole
  have found : StartsPiece (front ++ t :: back) front q := ⟨before, after, pieces, ends⟩
  refine ⟨front, t, back, q, rfl, found, event, ?_⟩
  cases operator : t.event? with
  | some e' => exact .inr (by rw [← event?_of_startsPiece rfl found operator, event])
  | none =>
    cases t with
    | char c => exact .inl (by rw [(List.cons.inj here).1])
    | something | option | opening b | closing b | regex body => cases operator

/-! ### Expressions and what they come from -/

theorem expressionOf_eq_nil_iff : expressionOf body = [] ↔ body = [] := by
  constructor
  · intro empty
    unfold expressionOf at empty
    split at empty
    · rfl
    · cases empty
    · cases empty
    · cases empty
  · rintro rfl
    rfl

variable {above : List Kind} {p : Pattern} {regex : Regex}

/-- A node of a compiled pattern that asks for a text is that of an element in its markup. -/
theorem exists_tag_of_search (compiled : compile template = .ok p)
    (mem : (above, .search regex) ∈ p.operators []) :
    ∃ e ∈ said (dropMark ((Tokens.ofSource template.toList).tokens.flatMap Token.markup)),
      asked? e = some (.ok (.search regex)) ∧ Starts .regex e := by
  obtain ⟨markup, expanded, operators⟩ := asks_of_compile compiled
  rw [markup_of_expand expanded] at operators
  have given : .ok (.search regex) ∈ asks _ := operators ▸ List.mem_map_of_mem mem
  obtain ⟨e, mem, asks_⟩ := List.mem_filterMap.mp given
  refine ⟨e, mem, asks_, ?_⟩
  obtain ⟨m, attributes, found, starts⟩ := starts_of_asked? asks_
  cases marker?_of_asked found.symm
  exact ⟨attributes, starts⟩

/-- The expression of an operator is empty only if the operator is. -/
theorem body_of_search (event : t.event? = some e) (asks_ : asked? e = some (.ok (.search regex))) :
    ∃ body, t = .regex body ∧ regex.source = String.ofList (expressionOf body) := by
  cases t with
  | char c => cases event
  | something | option =>
    cases event
    cases asks_
  | opening b =>
    cases event
    cases b with
    | capture name => cases (asked?_capture name).symm.trans asks_
    | but | many | scope | either => cases asks_
  | closing b =>
    cases event
    cases asks_
  | regex body =>
    cases event
    have found := Option.some.inj ((asked?_regex _).symm.trans asks_)
    obtain ⟨regex', written, same⟩ := searchFor_eq_ok found
    cases same
    exact ⟨body, rfl, source_of_ofSource? written⟩

/-- An operator that is read as such asks for a node of the pattern. -/
theorem exists_search (compiled : compile template = .ok p)
    (cut : (Tokens.ofSource template.toList).tokens = front ++ .regex body :: back)
    (starts : StartsPiece (front ++ .regex body :: back) front q) :
    ∃ above regex, (above, .search regex) ∈ p.operators [] ∧
      regex.source = String.ofList (expressionOf body) := by
  obtain ⟨markup, expanded, operators⟩ := asks_of_compile compiled
  rw [markup_of_expand expanded, cut] at operators
  have event := event?_of_startsPiece rfl starts (t := .regex body) rfl
  obtain ⟨before, after, pieces, -⟩ := starts
  have given : searchFor (String.ofList (expressionOf body)) ∈
      asks (dropMark ((front ++ .regex body :: back).flatMap Token.markup)) := by
    refine List.mem_filterMap.mpr ⟨_, List.mem_filterMap.mpr ⟨q, ?_, event⟩, asked?_regex _⟩
    rw [pieces]
    exact List.mem_append_right _ List.mem_cons_self
  rw [← operators] at given
  obtain ⟨⟨above, kind⟩, mem, found⟩ := List.mem_map.mp given
  obtain ⟨regex, written, rfl⟩ := searchFor_eq_ok found.symm
  exact ⟨above, regex, mem, source_of_ofSource? written⟩

/-- A brace and a slash with a closing brace right behind them are an empty expression. -/
theorem Reaches.compile_of_empty {before : List Token} {nesting : Nesting} {s : List Char}
    (h : Reaches template.toList before nesting ('\x7b' :: '/' :: '\x7d' :: s)) :
    compile template = .error (.emptyRegex (byteLength (before.flatMap Token.lexeme))) := by
  have other : ¬StartsWritten ('\x7b' :: '/' :: '\x7d' :: s) :=
    not_startsWritten_of_slash rfl (by simp)
  rw [compile, h.expand_of_fault (next?_of_slash other rfl)]
  rfl

/-- **Where an empty expression comes from.** In a pattern that is compiled from a template in which
no expression is written out as an element, an expression is empty if and only if it is that of a
regular expression with nothing between its delimiters that is read as an operator. A brace and a
slash with a closing brace right behind them, where the scan of a template comes to them, are
reported as an empty expression. -/
theorem empty_expression_iff (template : String) :
    (∀ p tokens, compile template = .ok p → (Tokens.ofSource template.toList).tokens = tokens →
      ¬WrittenOut .regex tokens →
      ((∀ above regex, (above, .search regex) ∈ p.operators [] → regex.source ≠ "") ↔
        ∀ front back, tokens = front ++ .regex [] :: back → ∀ q, ¬StartsPiece tokens front q)) ∧
    ∀ before nesting s, Reaches template.toList before nesting ('\x7b' :: '/' :: '\x7d' :: s) →
      compile template = .error (.emptyRegex (byteLength (before.flatMap Token.lexeme))) := by
  refine ⟨?_, fun _ _ _ reached => reached.compile_of_empty⟩
  rintro p _ compiled rfl plain
  constructor
  · intro given front back cut q starts
    obtain ⟨above, regex, mem, source⟩ := exists_search compiled cut (cut ▸ starts)
    exact given above regex mem source
  · intro bodies above regex mem empty
    obtain ⟨e, said, asks_, opens⟩ := exists_tag_of_search compiled mem
    obtain ⟨front, t, back, q, cut, starts, event, bracket | operator⟩ := token_of_tag said opens
    · exact plain ⟨front, back, q, e, bracket ▸ cut, starts, event, opens⟩
    · obtain ⟨body, rfl, source⟩ := body_of_search operator asks_
      have nothing : expressionOf body = [] := by
        rw [← String.toList_ofList (l := expressionOf body), ← source, empty]
        rfl
      rw [expressionOf_eq_nil_iff.mp nothing] at cut
      exact bodies front back cut q starts

/-- A template that is no more than a regular expression. -/
theorem exists_compile_of_regex {b : String}
    (expanded : expand template =
      .ok (String.ofList (selfClosed .regex (attributeMarkup "value" b.toList))))
    (parsed : (Regex.Expr.parse? b).isSome) : ∃ p, compile template = .ok p := by
  obtain ⟨regex, written⟩ := exists_ofSource? parsed
  have html : Marker.ofName? "html" = none := by decide
  have body : Marker.ofName? "body" = none := by decide
  have element : Marker.ofName? "ep-regex" = some .regex := by decide
  rw [compile, expanded, ok_bind, read_regex]
  simp [Pattern.ofDocument, alone, Pattern.ofNodes, Pattern.ofNode, Node.isBlank, html, body,
    element, leaf, required, searchFor, written, Except.map]

theorem inText_nil : InText [] := by
  unfold InText
  cbv

/-- A template without brackets of its own writes out no element. -/
theorem not_writtenOut (plain : .char '<' ∉ ts) : ¬WrittenOut m ts := by
  rintro ⟨front, back, q, e, rfl, -⟩
  exact plain (by simp)

/-- An expression of one letter, and a brace and a slash behind a letter. -/
theorem empty_expression_iff_letter :
    (∃ p, compile "\x7b/a/\x7d" = .ok p ∧
      ∀ above regex, (above, .search regex) ∈ p.operators [] → regex.source ≠ "") ∧
    compile "x\x7b/\x7d" = .error (.emptyRegex 1) := by
  have cut : (Tokens.ofSource "\x7b/a/\x7d".toList).tokens = [.regex ['a']] := by cbv
  obtain ⟨p, compiled⟩ : ∃ p, compile "\x7b/a/\x7d" = .ok p :=
    exists_compile_of_regex (b := "a") (by cbv) (by cbv)
  obtain ⟨whole, -⟩ := empty_expression_iff "\x7b/a/\x7d"
  obtain ⟨-, reported⟩ := empty_expression_iff "x\x7b/\x7d"
  refine ⟨⟨p, compiled, ?_⟩, reported [.char 'x'] [] [] (.step .start rfl rfl)⟩
  refine (whole p _ compiled rfl (not_writtenOut (by rw [cut]; simp))).mpr fun front back eq => ?_
  have mem : .regex [] ∈ [Token.regex ['a']] := by
    rw [← cut, eq]
    simp
  simp at mem

/-- **Two slashes in braces are an empty expression that is not reported.** -/
theorem empty_expression_compiles :
    ∃ p above regex, compile "\x7b//\x7d" = .ok p ∧
      ¬WrittenOut .regex (Tokens.ofSource "\x7b//\x7d".toList).tokens ∧
      (above, .search regex) ∈ p.operators [] ∧ regex.source = "" := by
  have cut : (Tokens.ofSource "\x7b//\x7d".toList).tokens = [] ++ .regex [] :: [] := by cbv
  obtain ⟨p, compiled⟩ : ∃ p, compile "\x7b//\x7d" = .ok p :=
    exists_compile_of_regex (b := "") (by cbv) (by cbv)
  obtain ⟨q, starts⟩ := exists_startsPiece inText_nil (t := .regex []) rfl []
  obtain ⟨above, regex, mem, source⟩ := exists_search compiled cut starts
  exact ⟨p, above, regex, compiled, not_writtenOut (by rw [cut]; simp), mem, source⟩

end Stencil.Template
