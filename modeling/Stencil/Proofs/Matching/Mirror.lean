import Mathlib
import Stencil.Matching.Run
import Stencil.Proofs.Document.Modes
import Stencil.Proofs.Document.Outline
import Stencil.Proofs.Matching.Step
import Stencil.Proofs.Template.Compiled
import Stencil.Proofs.Template.Plain

/-!
# Matching — documents as templates

A template without operators is a document, and asks for what it is: the pattern of a row of nodes
accepts the outline of the row, at any depth (`Pattern.matcher_ofNodes`). So a run of the template
on itself is valid, since the lenient way of reading makes the same document of it as the strict
one.
-/

namespace Stencil

open Template

/-! ### Nodes without reserved names -/

/-- No element of a row, or below it, has a reserved name. -/
def Node.Unreserved (row : List Node) : Prop :=
  ∀ x ∈ Node.walk 0 row, ∀ name ∈ x.2.name?, Marker.ofName? name = none

namespace Node

variable {n : Node} {rest : List Node}

/-- A walk meets the same nodes, whatever level it starts at. -/
theorem map_walk (row : List Node) :
    ∀ level level', (walk level row).map (·.2) = (walk level' row).map (·.2) := by
  induction row using row_induction with
  | nil =>
    intro level level'
    rw [walk, walk]
  | cons n rest ihc ih =>
    intro level level'
    simp only [walk_cons, List.map_cons, List.map_append]
    rw [ihc (level + 1) (level' + 1), ih level level']

theorem unreserved_cons : Unreserved (n :: rest) ↔
    (∀ name ∈ n.name?, Marker.ofName? name = none) ∧ Unreserved n.children ∧
      Unreserved rest := by
  have nodes : ∀ row, Unreserved row ↔ ∀ m ∈ (walk 0 row).map (·.2),
      ∀ name ∈ m.name?, Marker.ofName? name = none := by
    intro row
    rw [Unreserved, List.forall_mem_map]
  rw [nodes, nodes n.children, nodes rest, walk_cons, List.map_cons, List.map_append,
    map_walk n.children (0 + 1) 0]
  simp only [List.mem_cons, List.mem_append]
  constructor
  · exact fun h => ⟨h n (.inl rfl), fun m mem => h m (.inr (.inl mem)),
      fun m mem => h m (.inr (.inr mem))⟩
  · rintro ⟨here, low, late⟩ m (rfl | mem | mem)
    · exact here
    · exact low m mem
    · exact late m mem

end Node

namespace Pattern

/-! ### The pattern of a row -/

/-- **The pattern of a row without reserved names accepts the outline of the row.** It tells the
first text of the row, behind which it does not look. -/
theorem matcher_ofNodes (row : List Node) : ∀ (parent : List Nat) (index : Nat) (p : Pattern),
    Node.Unreserved row → ofNodes row = .ok p →
      p.matcher (Node.sites parent index row) .fresh =
        .quiet (.valid ((Document.visible row).findSome? Node.text?)) .fresh := by
  induction row using Node.row_induction with
  | nil =>
    intro parent index p _ compiled
    rw [ofNodes] at compiled
    cases compiled
    rw [matcher, Node.sites]
    rfl
  | cons n rest ihc ih =>
    intro parent index p unreserved compiled
    obtain ⟨free, low, late⟩ := Node.unreserved_cons.mp unreserved
    by_cases blank : n.isBlank
    · -- the compiler passes over a blank node, and so does the outline
      rw [ofNodes_cons_of_blank blank] at compiled
      rw [Node.sites_cons_of_blank blank, ih parent index p late compiled, Document.visible,
        Document.visible, List.filter_cons_of_neg (by simp [blank])]
    · have visible : n.isBlank = false := by simpa using blank
      obtain ⟨kind, child, next, here, behind, rfl⟩ := ofNodes_cons_of_visible visible compiled
      have later := ih parent (index + 1) next late behind
      rw [Node.sites_cons_of_visible visible, Document.visible,
        List.filter_cons_of_pos (by simp [visible]), List.findSome?_cons]
      cases n with
      | text d content =>
        -- a text does not look at what comes after it
        rw [ofNode] at here
        cases here
        rw [matcher, Node.site]
        simp [Matcher.literal, Node.text?]
      | element d name attributes children =>
        obtain ⟨rfl, inside⟩ := ofNode_element (free name rfl) here
        have inner := ihc (parent ++ [index]) 0 child low inside
        rw [Node.children] at inner
        rw [matcher, Node.site, Matcher.element_of_valid (by rw [inner]; rfl), inner]
        simp only [Attempt.quiet] at later ⊢
        rw [later]
        rfl

end Pattern

/-! ### Documents -/

namespace Document

theorem visible_map_completed (top : List Node) :
    visible (top.map completed) = (visible top).map completed := by
  have same : ∀ n, (completed n).isBlank = n.isBlank := by
    intro n
    cases n with
    | element d name attributes cs => rfl
    | text d content => rfl
  rw [visible, visible, List.filter_map]
  exact congrArg (List.map completed) (List.filter_congr fun n _ => by simp [same n])

/-- A document in normal form holds no text at its top level, but blank ones. -/
theorem findSome_text_normalized (top : List Node) :
    (visible (normalized top)).findSome? Node.text? = none := by
  cases e : visible top with
  | nil =>
    simp only [normalized, e]
    rfl
  | cons first later =>
    cases later with
    | nil =>
      by_cases html : first.isNamed "html"
      · simp only [normalized, e, html, if_true, visible_map_completed]
        cases first with
        | element d name attributes cs => rfl
        | text d content => cases html
      · simp only [normalized, e, html, if_false, Bool.false_eq_true]
        rfl
    | cons second later =>
      simp only [normalized, e]
      rfl

/-- What is read is in normal form. -/
theorem normalized_of_read {source : String} {mode : Mode} {d : Document}
    (h : read source mode = .ok d) : ∃ top, d.top = normalized top := by
  obtain ⟨top, -, rfl⟩ := ok_of_map h
  exact ⟨top, rfl⟩

end Document

namespace Pattern

/-- What a template without an opening brace is compiled from is what its source stands for. -/
theorem ofNodes_of_plain {source : String} {p : Pattern} (plain : '\x7b' ∉ source.toList)
    (compiled : Template.compile source = .ok p) :
    ∃ d, Document.read source .strict = .ok d ∧ ofNodes d.top = .ok p := by
  obtain ⟨markup, d, expanded, read, mirrored⟩ := ofNodes_of_compile compiled
  cases (expand_of_plain plain).symm.trans expanded
  exact ⟨d, read, mirrored⟩

/-- **A template without operators matches itself.** If a source without an opening brace compiles,
it can be read as a document; and if no element of this has a reserved name, a run on it is valid
and tells no text, binds nothing, calls no handler and runs out before no node. -/
theorem plain_matches_itself (source : String) (p : Pattern) (plain : '\x7b' ∉ source.toList)
    (compiled : Template.compile source = .ok p) :
    ∃ d, Document.read source .lenient = .ok d ∧
      (Node.Unreserved d.top →
        (p.run d).verdict = .valid none ∧ (p.run d).scope.frames = [.empty] ∧
          (∀ (α : Type) (handlers : Dispatcher α), (p.run d).dispatch handlers = []) ∧
          (p.run d).deepest = none) := by
  obtain ⟨d, read, mirrored⟩ := ofNodes_of_plain plain compiled
  refine ⟨d, Document.read_lenient_of_strict read, fun unreserved => ?_⟩
  have answer : p.run d = .quiet (.valid none) .fresh := by
    obtain ⟨top, normal⟩ := Document.normalized_of_read read
    rw [run, Document.outline, p.matcher_ofNodes d.top [] 0 unreserved mirrored, normal,
      Document.findSome_text_normalized]
  rw [answer]
  exact ⟨rfl, rfl, fun _ _ => rfl, rfl⟩

/-- A paragraph matches itself. -/
theorem plain_matches_itself_paragraph :
    ∃ p d, '\x7b' ∉ "<p>a <b>c</b></p>".toList ∧ Template.compile "<p>a <b>c</b></p>" = .ok p ∧
      Document.read "<p>a <b>c</b></p>" .lenient = .ok d ∧ Node.Unreserved d.top ∧
      (p.run d).verdict = .valid none := by
  have plain : '\x7b' ∉ "<p>a <b>c</b></p>".toList := by decide
  have compiled : Template.compile "<p>a <b>c</b></p>" = .ok (node (.element "html")
      (node (.element "body") (node (.element "p") (node (.literal "a ") nil
        (node (.element "b") (node (.literal "c") nil nil) nil)) nil) nil) nil) := by cbv
  obtain ⟨d, read, answer⟩ := plain_matches_itself _ _ plain compiled
  have top : Document.read "<p>a <b>c</b></p>" .lenient = .ok ⟨[.element 0 "html" []
      [.element 1 "body" [] [.element 2 "p" [] [.text 3 "a ", .element 3 "b" []
        [.text 4 "c"]]]]]⟩ := by cbv
  have unreserved : Node.Unreserved d.top := by
    cases read.symm.trans top
    simp [Node.Unreserved, Node.walk, Node.name?, Marker.ofName?, Marker.all, Marker.name]
  exact ⟨_, d, plain, compiled, read, unreserved, (answer unreserved).1⟩

end Pattern

end Stencil
