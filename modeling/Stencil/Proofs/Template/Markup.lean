import Mathlib
import Stencil.Proofs.Markup.Concat
import Stencil.Proofs.Markup.Escape
import Stencil.Template.Expansion

/-!
# Template — the markup of operators

What the markup of an operator says, where it is read between texts and whole pieces of markup: one
tag of its reserved element, with the text that the operator carries as an attribute
(`Template.said_append_token`).
-/

namespace Stencil

namespace Markup

/-- What the pieces of a source say, up to the first fault. -/
def said (s : List Char) : List Event := (Pieces.ofSource s).pieces.filterMap Piece.event?

end Markup

namespace Template

open Markup Text

variable {m : Marker} {text s : List Char} {as : List Attribute} {t : Token} {e : Event}

/-! ### Tags of reserved elements -/

namespace Marker

theorem bare_of_mem_name (m : Marker) :
    ∀ c ∈ m.name.toList, inBareValue c ∧ c ∉ ['>', '\x22', '\x27'] := by
  cases m <;> exact List.all_iff_forall_prop.mp (by decide)

theorem lowerCase_name (m : Marker) : lowerCase m.name.toList = m.name := by
  cases m <;> cbv

theorem endName_name (m : Marker) : endName m.name.toList = m.name := by
  cases m <;> cbv

theorem ofName?_name (m : Marker) : ofName? m.name = some m := by
  cases m <;> decide

/-- A reserved name starts with a letter and does not end in a slash. -/
theorem exists_name (m : Marker) :
    ∃ rest, m.name.toList = 'e' :: rest ∧ m.name.toList.getLast? ≠ some '/' := by
  cases m <;> exact ⟨_, rfl, by decide⟩

theorem markup?_endTag (m : Marker) :
    markup? ('/' :: m.name.toList ++ ['>']) = .ok (.endTag m.name.toList, []) := by
  cases m <;> rfl

end Marker

/-- A text that writes attributes, behind the name of a tag. -/
structure Attributed (text : List Char) (as : List Attribute) : Prop where
  /-- A tag goes on over the text. -/
  inTag : ∀ {s content after : List Char}, tagEnd? none s = some (content, after) →
    tagEnd? none (text ++ s) = some (text ++ content, after)
  /-- The name ends where the text starts. -/
  apart : ∀ c ∈ text.head?, ¬inBareValue c
  /-- The text does not end in a slash. -/
  last : text.getLast? ≠ some '/'
  /-- The attributes are those that the text writes. -/
  read : attributes text = as

theorem attributed_nil : Attributed [] [] where
  inTag h := h
  apart _ mem := nomatch mem
  last := nofun
  read := by rw [attributes, rawAttributes]; rfl

/-- An attribute keeps its value, whatever this is. -/
theorem attributed_attributeMarkup {key : String} (word : ∀ c ∈ key.toList, inKey c)
    (bare : ∀ c ∈ key.toList, c ∉ ['>', '\x22', '\x27']) (given : key.toList ≠ [])
    (lower : lowerCase key.toList = key) (value : List Char) :
    Attributed (attributeMarkup key value) [(key, String.ofList value)] where
  inTag h := by
    have quoted := tagEnd?_quoted (not_mem_escape (by decide) (by decide) value) h
    have front : ∀ c ∈ ' ' :: key.toList ++ ['='], c ∉ ['>', '\x22', '\x27'] := by
      intro c mem
      rw [List.mem_append, List.mem_cons, List.mem_singleton] at mem
      rcases mem with (rfl | inside) | rfl
      · decide
      · exact bare c inside
      · decide
    simpa [attributeMarkup] using tagEnd?_bare front quoted
  apart := by
    rintro c ⟨⟩
    decide
  last := by
    rw [attributeMarkup, List.getLast?_append]
    nofun
  read := by rw [attributeMarkup, attributes_quoted word given value, lower]

/-- The content of a tag of a reserved element starts with a letter. -/
theorem exists_content (m : Marker) (text : List Char) :
    ∃ rest, m.name.toList ++ text = 'e' :: rest := by
  obtain ⟨rest, start, -⟩ := m.exists_name
  exact ⟨rest ++ text, by rw [start, List.cons_append]⟩

theorem tagEnd?_name (m : Marker) (h : Attributed text as) {tail content after : List Char}
    (ends : tagEnd? none tail = some (content, after)) :
    tagEnd? none (m.name.toList ++ text ++ tail) =
      some (m.name.toList ++ text ++ content, after) := by
  rw [List.append_assoc, List.append_assoc]
  exact tagEnd?_bare (fun c mem => (m.bare_of_mem_name c mem).2) (h.inTag ends)

theorem markup?_tag (m : Marker) (h : Attributed text as) {tail content after : List Char}
    (ends : tagEnd? none tail = some (content, after)) :
    markup? (m.name.toList ++ text ++ tail) =
      .ok (.startTag (m.name.toList ++ text ++ content), after) := by
  have found := tagEnd?_name m h ends
  obtain ⟨rest, start⟩ := exists_content m (text ++ tail)
  rw [← List.append_assoc] at start
  rw [start] at found ⊢
  exact markup?_of_tagEnd? (by decide) (by decide) (by decide) found

/-- The name and the attributes of a tag of a reserved element. -/
theorem tag_of_attributed (m : Marker) (h : Attributed text as) :
    tagName (m.name.toList ++ text) = m.name ∧
      tagAttributes (m.name.toList ++ text) = as := by
  have inName : ∀ c ∈ m.name.toList, inBareValue c := fun c mem => (m.bare_of_mem_name c mem).1
  have behind : text.takeWhile inBareValue = [] ∧ text.dropWhile inBareValue = text := by
    cases text with
    | nil => exact ⟨rfl, rfl⟩
    | cons c rest =>
      have blank := h.apart c rfl
      exact ⟨List.takeWhile_cons_of_neg blank, List.dropWhile_cons_of_neg blank⟩
  constructor
  · rw [tagName, List.takeWhile_append_of_pos inName, behind.1, List.append_nil, m.lowerCase_name]
  · rw [tagAttributes, List.dropWhile_append_of_pos inName, behind.2, h.read]

theorem getLast?_content_ne (m : Marker) (h : Attributed text as) :
    (m.name.toList ++ text).getLast? ≠ some '/' := by
  cases text with
  | nil =>
    obtain ⟨_, _, last⟩ := m.exists_name
    rw [List.append_nil]
    exact last
  | cons c rest =>
    rw [List.getLast?_append, List.getLast?_cons, Option.some_or, ← List.getLast?_cons]
    exact h.last

theorem event?_startTag (m : Marker) (h : Attributed text as) :
    (Piece.startTag (m.name.toList ++ text)).event? = some (.start m.name as) := by
  obtain ⟨name, written⟩ := tag_of_attributed m h
  rw [Piece.event?, if_neg (getLast?_content_ne m h), name, written]

theorem event?_selfClosed (m : Marker) (h : Attributed text as) :
    (Piece.startTag (m.name.toList ++ text ++ ['/'])).event? =
      some (.selfClosed m.name as) := by
  obtain ⟨name, written⟩ := tag_of_attributed m h
  rw [Piece.event?, if_pos List.getLast?_concat, List.dropLast_concat, name, written]

/-- An element that closes itself is one piece, with its attributes. -/
theorem exists_piece_selfClosed (m : Marker) (h : Attributed text as) :
    ∃ tag p, selfClosed m text = '<' :: tag ∧ markup? tag = .ok (p, []) ∧
      p.event? = some (.selfClosed m.name as) := by
  refine ⟨m.name.toList ++ text ++ ['/', '>'], _, ?_, markup?_tag m h rfl, event?_selfClosed m h⟩
  rw [selfClosed, List.cons_append, List.cons_append]

/-! ### Operators -/

/-- The attributes of the element that an operator stands for. -/
def Block.attributes : Block → List Attribute
  | capture name => [("name", name)]
  | _ => []

/-- What the markup of an operator says. -/
def Token.event? : Token → Option Event
  | char _ => none
  | something => some (.selfClosed Marker.something.name [])
  | option => some (.selfClosed Marker.or.name [])
  | opening b => some (.start b.marker.name b.attributes)
  | closing b => some (.finish b.marker.name)
  | regex body =>
    some (.selfClosed Marker.regex.name [("value", String.ofList (expressionOf body))])

theorem attributed_name (name : List Char) :
    Attributed (attributeMarkup "name" name) [("name", String.ofList name)] :=
  attributed_attributeMarkup (List.all_iff_forall_prop.mp (by decide))
    (List.all_iff_forall_prop.mp (by decide)) (by decide) (by cbv) name

theorem attributed_value (value : List Char) :
    Attributed (attributeMarkup "value" value) [("value", String.ofList value)] :=
  attributed_attributeMarkup (List.all_iff_forall_prop.mp (by decide))
    (List.all_iff_forall_prop.mp (by decide)) (by decide) (by cbv) value

theorem Block.attributed (b : Block) : Attributed b.attributeMarkup b.attributes := by
  cases b with
  | capture name =>
    have written := attributed_name name.toList
    rwa [String.ofList_toList] at written
  | but | many | scope | either => exact attributed_nil

/-- An operator is one piece of markup. -/
theorem exists_piece (h : t.event? = some e) :
    ∃ tag p, t.markup = '<' :: tag ∧ markup? tag = .ok (p, []) ∧ p.event? = some e := by
  cases t with
  | char c => cases h
  | something =>
    cases h
    exact exists_piece_selfClosed .something attributed_nil
  | option =>
    cases h
    exact exists_piece_selfClosed .or attributed_nil
  | regex body =>
    cases h
    exact exists_piece_selfClosed .regex (attributed_value _)
  | opening b =>
    cases h
    have ends : tagEnd? none ['>'] = some ([], []) := rfl
    have tag := markup?_tag b.marker b.attributed ends
    rw [List.append_nil] at tag
    exact ⟨_, _, by rw [Token.markup, List.cons_append, List.cons_append], tag,
      event?_startTag b.marker b.attributed⟩
  | closing b =>
    cases h
    refine ⟨_, _, by rw [Token.markup, List.cons_append], b.marker.markup?_endTag, ?_⟩
    rw [Piece.event?, b.marker.endName_name]

theorem said_token (h : t.event? = some e) (s : List Char) :
    said (t.markup ++ s) = e :: said s ∧
      (Pieces.ofSource (t.markup ++ s)).fault = (Pieces.ofSource s).fault := by
  obtain ⟨tag, p, start, read, event⟩ := exists_piece h
  have cut : Pieces.ofSource (t.markup ++ s) = (Pieces.ofSource s).cons p := by
    rw [start, List.cons_append, Pieces.ofSource_markup (markup?_append read s), List.nil_append]
  rw [said, cut]
  exact ⟨List.filterMap_cons_some event, rfl⟩

/-- **An operator between texts and whole pieces of markup says the same wherever it stands**, and
what stands around it is read as if it stood alone. -/
theorem said_append_token (h : t.event? = some e) {before : List Char}
    (sound : (Pieces.ofSource before).fault = none) (after : List Char) :
    said (before ++ (t.markup ++ after)) = said before ++ e :: said after ∧
      (Pieces.ofSource (before ++ (t.markup ++ after))).fault = (Pieces.ofSource after).fault := by
  obtain ⟨tag, -, start, -, -⟩ := exists_piece h
  have bracket : ∀ c ∈ (t.markup ++ after).head?, c = '<' := by
    rw [start]
    rintro c ⟨⟩
    rfl
  obtain ⟨here, same⟩ := said_token h after
  rw [said, Pieces.ofSource_append bracket before sound, List.filterMap_append, ← said, ← said,
    here]
  exact ⟨rfl, same⟩

end Template

end Stencil
