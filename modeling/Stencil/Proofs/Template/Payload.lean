import Stencil.Proofs.Template.Operators

/-!
# Template — texts that operators carry

The expression of a regular expression and the name of a capture come through the markup unchanged,
whatever characters they have in them: the markup of the operator is read to an element with this
text as its attribute, and in a template the operator stands for a node with this text, between what
the markup in front of it and the markup behind it stand for (`Template.carried_text_unchanged`).
-/

namespace Stencil.Template

open Markup

variable {template : String} {before after : List Token} {t : Token} {e : Event} {p : Pattern}
  {given : Except TemplateError Kind} {events : List Event}

/-! ### What markup asks for -/

/-- What the element of a start tag asks for, if its name is reserved. -/
def asked? : Event → Option (Except TemplateError Kind)
  | .start name attributes | .selfClosed name attributes =>
    (Marker.ofName? name).map (asked · attributes)
  | .finish _ | .text _ => none

/-- What the reserved elements of a source ask for, in their order. -/
def asks (s : List Char) : List (Except TemplateError Kind) := (said s).filterMap asked?

theorem map_asked_placements (events : List Event) : ∀ around,
    (placements around events).map (fun pl => asked pl.marker pl.attributes) =
      events.filterMap asked? := by
  induction events with
  | nil => exact fun _ => rfl
  | cons e rest ih =>
    intro around
    have here : (e.placed around).map (fun pl => asked pl.marker pl.attributes) =
        (asked? e).toList := by
      cases e with
      | start name attributes | selfClosed name attributes =>
        rw [Event.placed, placedAt, asked?]
        cases Marker.ofName? name with
        | none => rfl
        | some m => rfl
      | finish name | text content => rfl
    rw [placements, List.map_append, here, ih]
    cases asks : asked? e with
    | none => rw [List.filterMap_cons_none asks]; rfl
    | some given => rw [List.filterMap_cons_some asks]; rfl

/-- The operators of a compiled template are what its markup asks for. -/
theorem asks_of_compile (compiled : compile template = .ok p) :
    ∃ markup, expand template = .ok markup ∧
      (p.operators []).map (fun o => Except.ok o.2) = asks (dropMark markup.toList) := by
  obtain ⟨markup, expanded, -, stands⟩ := operators_of_compile compiled
  refine ⟨markup, expanded, ?_⟩
  rw [asks, ← map_asked_placements _ []]
  generalize placements [] (said (dropMark markup.toList)) = placed at stands
  generalize p.operators [] = operators at stands
  induction operators generalizing placed with
  | nil =>
    rw [List.forall₂_nil_left_iff, List.map_eq_nil_iff] at stands
    rw [stands]
    rfl
  | cons o operators ih =>
    obtain ⟨v, views, here, later, eq⟩ := List.forall₂_cons_left_iff.mp stands
    obtain ⟨pl, placed, rfl, rfl, rfl⟩ := List.map_eq_cons_iff.mp eq
    rw [List.map_cons, List.map_cons, ih placed later]
    exact congrArg (· :: _) here.asked.symm

/-! ### Operators in text -/

/-- What follows a row of tokens stands in text: the markup of the row is read to its end, and
leaves no tag, comment or section open. -/
def InText (before : List Token) : Prop :=
  (Pieces.ofSource (dropMark (before.flatMap Token.markup))).fault = none

theorem dropMark_append_tag (s tag : List Char) :
    dropMark (s ++ '<' :: tag) = dropMark s ++ '<' :: tag := by
  cases s with
  | nil => rfl
  | cons c rest =>
    by_cases mark : c = '\ufeff'
    · subst mark
      rfl
    · rw [List.cons_append, dropMark_of_head? (by simpa using mark),
        dropMark_of_head? (by simpa using mark), List.cons_append]

/-- The markup around an operator and that of the operator make up the markup of the whole row. -/
theorem dropMark_around (event : t.event? = some e) (before after : List Token) :
    dropMark ((before ++ t :: after).flatMap Token.markup) =
      dropMark (before.flatMap Token.markup) ++ (t.markup ++ after.flatMap Token.markup) := by
  obtain ⟨tag, -, start, -, -⟩ := exists_piece event
  rw [List.flatMap_append, List.flatMap_cons, start, List.cons_append, dropMark_append_tag]

/-- An operator in text asks for the same wherever it stands, and what is around it asks for what it
asks for alone. -/
theorem asks_append_token (event : t.event? = some e) (asks_ : asked? e = some given)
    (inText : InText before) :
    asks (dropMark ((before ++ t :: after).flatMap Token.markup)) =
      asks (dropMark (before.flatMap Token.markup)) ++
        given :: asks (after.flatMap Token.markup) := by
  rw [asks, dropMark_around event, (said_append_token event inText _).1, List.filterMap_append,
    List.filterMap_cons_some asks_]
  rfl

theorem markup_of_expand {markup : String} (expanded : expand template = .ok markup) :
    markup.toList = (Tokens.ofSource template.toList).tokens.flatMap Token.markup := by
  obtain ⟨text, found, rfl⟩ := ok_of_map expanded
  obtain ⟨⟨left, offset⟩, -, found⟩ := ok_of_bind found
  dsimp only at found
  split at found
  · cases found
  · cases found
  · cases found
    exact String.toList_ofList

variable (cut : (Tokens.ofSource template.toList).tokens = before ++ t :: after)
  (inText : InText before) (event : t.event? = some e) (asks_ : asked? e = some given)

include cut inText event asks_

/-- The operators of a compiled template, around one of them that stands in text. -/
theorem operators_around (compiled : compile template = .ok p) :
    (p.operators []).map (fun o => Except.ok o.2) =
      asks (dropMark (before.flatMap Token.markup)) ++
        given :: asks (after.flatMap Token.markup) := by
  obtain ⟨markup, expanded, operators⟩ := asks_of_compile compiled
  rw [operators, markup_of_expand expanded, cut, asks_append_token event asks_ inText]

/-- An operator in text of a compiled template stands for a node. -/
theorem exists_kind (compiled : compile template = .ok p) : ∃ kind, given = .ok kind := by
  have whole := operators_around cut inText event asks_ compiled
  have mem : given ∈ (p.operators []).map (fun o => Except.ok o.2) := by
    rw [whole]
    exact List.mem_append_right _ List.mem_cons_self
  obtain ⟨o, -, rfl⟩ := List.mem_map.mp mem
  exact ⟨o.2, rfl⟩

/-- An expression that is reported is that of this operator, or one in front of it or behind it. -/
theorem reported_around {b : String} (reported : compile template = .error (.invalidRegex b)) :
    .error (.invalidRegex b) ∈ asks (dropMark (before.flatMap Token.markup)) ++
      given :: asks (after.flatMap Token.markup) := by
  obtain ⟨markup, expanded, pl, mem, invalid⟩ := reported_of_compile reported
  rw [← asks_append_token event asks_ inText, ← cut, ← markup_of_expand expanded, asks,
    ← map_asked_placements _ [], ← invalid]
  exact List.mem_map_of_mem mem

omit cut inText event asks_

/-! ### The two operators that carry a text -/

theorem asked?_regex (body : List Char) :
    asked? (.selfClosed Marker.regex.name [("value", String.ofList body)]) =
      some (searchFor (String.ofList body)) := rfl

theorem asked?_capture (name : String) :
    asked? (.start Marker.capture.name [("name", name)]) = some (.ok (.capture name)) := rfl

theorem source_of_ofSource? {b : String} {regex : Regex} (h : Regex.ofSource? b = some regex) :
    regex.source = b := by
  unfold Regex.ofSource? at h
  split at h
  · cases h
    rfl
  · cases h

/-- An element alone in the normal form of a document. -/
def alone (name : String) (attributes : List Attribute) : Document :=
  ⟨[.element 0 "html" [] [.element 1 "body" [] [.element 2 name attributes []]]]⟩

theorem normalized_alone (m : Marker) (attributes : List Attribute) :
    (⟨Document.normalized [.element 0 m.name attributes []]⟩ : Document) =
      alone m.name attributes := by
  have other : m.name ≠ "html" ∧ m.name ≠ "head" ∧ m.name ≠ "body" := by
    cases m <;> decide
  have shown : Document.visible [.element 0 m.name attributes []] =
      [.element 0 m.name attributes []] := rfl
  have fragment : Document.IsFragment [.element 0 m.name attributes []] := by
    constructor
    · simp [shown]
    · simp [shown, Node.isNamed, Node.name?, other]
    · simp [shown, Node.isNamed, Node.name?, other]
    · simp [shown, Node.isNamed, Node.name?, other]
  rw [Document.normalized_of_fragment fragment, alone, written]
  simp [Node.deepen]

/-- The markup of a regular expression is read to one empty element. -/
theorem read_regex (b : List Char) (mode : Mode) :
    Document.read (String.ofList (selfClosed .regex (attributeMarkup "value" b))) mode =
      .ok (alone "ep-regex" [("value", String.ofList b)]) := by
  obtain ⟨tag, piece, start, whole, event⟩ := exists_piece_selfClosed .regex (attributed_value b)
  have pieces : Pieces.ofSource ('<' :: tag) = ⟨[piece], none⟩ := by
    rw [Pieces.ofSource_markup whole, Pieces.ofSource_nil]
    rfl
  have events : eventsFrom 0 [piece] =
      [(0, .selfClosed "ep-regex" [("value", String.ofList b)])] := by
    rw [eventsFrom, event]
    rfl
  have assembled : Assembly.ofReading mode
      (.ofSource (String.ofList (selfClosed .regex (attributeMarkup "value" b)))) =
        .ok [.element 0 "ep-regex" [("value", String.ofList b)] []] := by
    rw [ofReading_ofSource, String.toList_ofList, start, dropMark_of_head? (by simp)]
    refine ⟨by rw [pieces], ?_⟩
    rw [pieces, events]
    cases mode <;> rfl
  rw [Document.read, assembled]
  exact congrArg Except.ok (normalized_alone .regex _)

/-- The markup of a capture is read to one empty element. -/
theorem read_capture (name : String) (mode : Mode) :
    Document.read (String.ofList ((Token.opening (.capture name)).markup ++
        (Token.closing (.capture name)).markup)) mode =
      .ok (alone "ep-variable" [("name", name)]) := by
  obtain ⟨first, p, opens, reads, starts⟩ := exists_piece (t := .opening (.capture name)) rfl
  obtain ⟨last, q, closes, reads', ends⟩ := exists_piece (t := .closing (.capture name)) rfl
  have nothing : Reads .strict [] [] := by
    constructor
    · rw [Pieces.ofSource_nil]
    · rw [Pieces.ofSource_nil]
      rfl
  have assembled : Assembly.ofReading mode (.ofSource (String.ofList
      ((Token.opening (.capture name)).markup ++ (Token.closing (.capture name)).markup))) =
        .ok [.element 0 "ep-variable" [("name", name)] []] := by
    rw [ofReading_ofSource, String.toList_ofList, opens, closes, List.cons_append,
      dropMark_of_head? (by simp)]
    exact nothing.around reads starts reads' ends rfl mode
  rw [Document.read, assembled]
  exact congrArg Except.ok (normalized_alone .capture _)

/-- **The texts that operators carry come through the markup unchanged.** The markup of an
expression is read to one empty element with the expression as its value, that of a capture to one
empty element with its name, in both ways of reading. In a template, a regular expression that
stands in text is read from its own expression, between what the markup in front of it and that
behind it stand for, and where an expression is reported it is this one, if it is no other. A
capture that stands in text captures under its own name. -/
theorem carried_text_unchanged :
    (∀ (b : List Char) (mode : Mode),
      Document.read (String.ofList (selfClosed .regex (attributeMarkup "value" b))) mode =
        .ok (alone "ep-regex" [("value", String.ofList b)])) ∧
    (∀ (name : String) (mode : Mode),
      Document.read (String.ofList ((Token.opening (.capture name)).markup ++
          (Token.closing (.capture name)).markup)) mode =
        .ok (alone "ep-variable" [("name", name)])) ∧
    ∀ (template : String) (before after : List Token), InText before →
      (∀ body, (Tokens.ofSource template.toList).tokens = before ++ .regex body :: after →
        (∀ p, compile template = .ok p → ∃ regex,
          Regex.ofSource? (String.ofList (expressionOf body)) = some regex ∧
          regex.source = String.ofList (expressionOf body) ∧
          (p.operators []).map (fun o => Except.ok o.2) =
            asks (dropMark (before.flatMap Token.markup)) ++
              .ok (.search regex) :: asks (after.flatMap Token.markup)) ∧
        (∀ b, compile template = .error (.invalidRegex b) →
          .error (.invalidRegex b) ∈ asks (dropMark (before.flatMap Token.markup)) ∨
          (b = String.ofList (expressionOf body) ∧ Regex.ofSource? b = none) ∨
          .error (.invalidRegex b) ∈ asks (after.flatMap Token.markup))) ∧
      ∀ name,
        (Tokens.ofSource template.toList).tokens = before ++ .opening (.capture name) :: after →
        ∀ p, compile template = .ok p →
          (p.operators []).map (fun o => Except.ok o.2) =
            asks (dropMark (before.flatMap Token.markup)) ++
              .ok (.capture name) :: asks (after.flatMap Token.markup) := by
  refine ⟨read_regex, read_capture, fun template before after inText => ⟨fun body cut => ?_,
    fun name cut p compiled => operators_around cut inText rfl (asked?_capture name) compiled⟩⟩
  have asks_ := asked?_regex (expressionOf body)
  refine ⟨fun p compiled => ?_, fun b reported => ?_⟩
  · obtain ⟨kind, found⟩ := exists_kind cut inText rfl asks_ compiled
    obtain ⟨regex, written, rfl⟩ := searchFor_eq_ok found
    rw [found] at asks_
    exact ⟨regex, written, source_of_ofSource? written,
      operators_around cut inText rfl asks_ compiled⟩
  · have mem := reported_around cut inText rfl asks_ reported
    rw [List.mem_append, List.mem_cons] at mem
    refine mem.imp_right (Or.imp_left fun here => ?_)
    unfold searchFor at here
    split at here
    · cases here
    · next invalid =>
      cases here
      exact ⟨rfl, invalid⟩

theorem exists_ofSource? {b : String} (h : (Regex.Expr.parse? b).isSome) :
    ∃ regex, Regex.ofSource? b = some regex := by
  obtain ⟨expr, written⟩ := Option.isSome_iff_exists.mp h
  unfold Regex.ofSource?
  split
  · exact ⟨_, rfl⟩
  · next none => cases none.symm.trans written

/-- An expression with quotes, with what looks like a reference and with the end of a tag. -/
theorem carried_text_unchanged_quotes :
    ∃ p regex, compile "\x7b/\x22&lt;'>\\/=/\x7d" = .ok p ∧ regex.source = "\x22&lt;'>/=" ∧
      (p.operators []).map (fun o => Except.ok o.2) =
        [(.ok (.search regex) : Except TemplateError Kind)] := by
  have cut : (Tokens.ofSource "\x7b/\x22&lt;'>\\/=/\x7d".toList).tokens =
      [] ++ .regex "\x22&lt;'>\\/=".toList :: [] := by cbv
  obtain ⟨p, compiled⟩ : ∃ p, compile "\x7b/\x22&lt;'>\\/=/\x7d" = .ok p := by
    have expanded : expand "\x7b/\x22&lt;'>\\/=/\x7d" =
        .ok (String.ofList
          (selfClosed .regex (attributeMarkup "value" "\x22&lt;'>/=".toList))) := by cbv
    obtain ⟨regex, written⟩ := exists_ofSource? (b := "\x22&lt;'>/=") (by cbv)
    have html : Marker.ofName? "html" = none := by decide
    have body : Marker.ofName? "body" = none := by decide
    have element : Marker.ofName? "ep-regex" = some .regex := by decide
    rw [compile, expanded, ok_bind, read_regex]
    simp [Pattern.ofDocument, alone, Pattern.ofNodes, Pattern.ofNode, Node.isBlank, html, body,
      element, leaf, required, searchFor, written, Except.map]
  have inText : InText [] := by
    unfold InText
    cbv
  have nothing : asks [] = [] := by cbv
  obtain ⟨regex, -, source, operators⟩ :=
    ((carried_text_unchanged.2.2 _ _ _ inText).1 _ cut).1 p compiled
  exact ⟨p, regex, compiled, source, by simpa [dropMark, nothing] using operators⟩

end Stencil.Template
