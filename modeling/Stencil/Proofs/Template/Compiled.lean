import Stencil.Proofs.Success
import Stencil.Template.Compile

/-!
# Template — compiled patterns

Where a template compiles, its pattern is that of the rows of siblings of the document that it
stands for, node by node.
-/

namespace Stencil

open Template

namespace Pattern

variable {n : Node} {rest : List Node} {p : Pattern}

theorem ofNodes_cons_of_blank (h : n.isBlank) : ofNodes (n :: rest) = ofNodes rest := by
  rw [ofNodes]
  cases e : ofNodes rest with
  | error fault => rfl
  | ok next =>
    simp only [h, if_true]
    rfl

theorem ofNodes_cons_of_visible (h : n.isBlank = false) (compiled : ofNodes (n :: rest) = .ok p) :
    ∃ kind child next, ofNode n = .ok (kind, child) ∧ ofNodes rest = .ok next ∧
      p = node kind child next := by
  rw [ofNodes] at compiled
  obtain ⟨next, behind, compiled⟩ := ok_of_bind compiled
  rw [h, if_neg Bool.false_ne_true] at compiled
  obtain ⟨⟨kind, child⟩, here, compiled⟩ := ok_of_bind compiled
  cases compiled
  exact ⟨kind, child, next, here, behind, rfl⟩

/-- An element without a reserved name asks for an element of its name, with its children. -/
theorem ofNode_element {d : Nat} {name : String} {attributes : List Markup.Attribute}
    {children : List Node} {kind : Kind} {child : Pattern} (h : Marker.ofName? name = none)
    (compiled : ofNode (.element d name attributes children) = .ok (kind, child)) :
    kind = .element name ∧ ofNodes children = .ok child := by
  rw [ofNode, h] at compiled
  obtain ⟨inner, inside, compiled⟩ := ok_of_bind compiled
  cases compiled
  exact ⟨rfl, inside⟩

/-- A reserved element that has no children asks for nothing below it. -/
theorem child_of_leaf {m : Marker} {children : List Node} {asked : Except TemplateError Kind}
    {kind : Kind} {child : Pattern} (compiled : leaf m children asked = .ok (kind, child)) :
    child = nil := by
  rw [leaf] at compiled
  split at compiled
  · obtain ⟨found, -, eq⟩ := ok_of_map compiled
    cases eq
    rfl
  · cases compiled

theorem ofNodes_of_ofDocument {d : Document} {p : Pattern} (h : ofDocument d = .ok p) :
    ofNodes d.top = .ok p := by
  obtain ⟨whole, compiled, h⟩ := ok_of_bind h
  cases whole with
  | nil => cases h
  | node kind child next =>
    cases h
    exact compiled

theorem ne_nil_of_ofDocument {d : Document} (h : ofDocument d = .ok p) : p ≠ nil := by
  obtain ⟨whole, compiled, h⟩ := ok_of_bind h
  cases whole with
  | nil => cases h
  | node kind child next =>
    cases h
    exact nofun

/-- A template that compiles stands for a document, which is read strictly. -/
theorem ofDocument_of_compile {template : String} (compiled : compile template = .ok p) :
    ∃ markup d, expand template = .ok markup ∧ Document.read markup .strict = .ok d ∧
      ofDocument d = .ok p := by
  obtain ⟨markup, expanded, compiled⟩ := ok_of_bind compiled
  cases read : Document.read markup .strict with
  | error fault =>
    rw [read] at compiled
    cases compiled
  | ok d =>
    rw [read] at compiled
    exact ⟨markup, d, expanded, read, compiled⟩

theorem ofNodes_of_compile {template : String} (compiled : compile template = .ok p) :
    ∃ markup d, expand template = .ok markup ∧ Document.read markup .strict = .ok d ∧
      ofNodes d.top = .ok p := by
  obtain ⟨markup, d, expanded, read, compiled⟩ := ofDocument_of_compile compiled
  exact ⟨markup, d, expanded, read, ofNodes_of_ofDocument compiled⟩

end Pattern

end Stencil
