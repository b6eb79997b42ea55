import Mathlib
import Stencil.Proofs.Document.Shape
import Stencil.Proofs.Matching.Mirror
import Stencil.Proofs.Matching.Verdict
import Stencil.Proofs.Template.Flaws
import Stencil.Proofs.Template.Nested

/-!
# Matching — templates without operators

A literal does not look at what comes after it, so a template without operators tells documents
apart only up to the first text of each row of siblings. It is valid on the documents whose shape is
its own when every row of both is cut there, and on no others (`Pattern.plain_valid_iff`).
-/

namespace Stencil

open Template

/-! ### Sources without operators -/

namespace Template

variable {source markup : String}

/-- A template without operators stands for itself. -/
theorem eq_of_expand (free : OperatorFree (Tokens.ofSource source.toList).tokens)
    (expanded : expand source = .ok markup) : markup = source := by
  obtain ⟨text, found, rfl⟩ := ok_of_map expanded
  obtain ⟨whole, -, rfl⟩ := expand_tokens_iff.mp found
  rw [free.markup, (scans_ofSource source.toList).lexemes whole, String.ofList_toList]

end Template

/-! ### Rows that are cut behind their first text -/

namespace Shape

mutual

/-- A tree, with the rows below it cut behind their first text. -/
def cut : Shape → Shape
  | element name cs => .element name (cuts cs)
  | text content => .text content

/-- A row of trees up to its first text, with the rows below it cut in the same way. -/
def cuts : List Shape → List Shape
  | [] => []
  | .text content :: _ => [.text content]
  | .element name cs :: rest => cut (.element name cs) :: cuts rest

end

variable {name name' content content' : String} {cs cs' rest rest' : List Shape}

@[simp] theorem cuts_nil : cuts [] = [] := by rw [cuts]

@[simp] theorem cuts_text : cuts (.text content :: rest) = [.text content] := by rw [cuts]

@[simp] theorem cuts_element :
    cuts (.element name cs :: rest) = .element name (cuts cs) :: cuts rest := by
  rw [cuts, cut]

/-- Rows that start with elements are cut alike if the elements have one name, and the rows below
them and behind them are cut alike. -/
theorem cuts_element_inj : cuts (.element name cs :: rest) = cuts (.element name' cs' :: rest') ↔
    name = name' ∧ cuts cs = cuts cs' ∧ cuts rest = cuts rest' := by
  rw [cuts_element, cuts_element, List.cons.injEq, element.injEq, and_assoc]

theorem cuts_text_inj : cuts (.text content :: rest) = cuts (.text content' :: rest') ↔
    content = content' := by simp

end Shape

/-- The first node of a row that is not blank leads its outline and its shape. -/
theorem Node.sites_cases (row : List Node) (parent : List Nat) (index : Nat) :
    sites parent index row = [] ∧ shapes row = [] ∨
      ∃ (n : Node) (rest : List Node),
        sites parent index row = n.site (parent ++ [index]) :: sites parent (index + 1) rest ∧
          shapes row = n.shape :: shapes rest := by
  induction row with
  | nil => exact .inl ⟨by rw [sites], by rw [shapes]⟩
  | cons n rest ih =>
    by_cases blank : n.isBlank
    · rw [sites_cons_of_blank blank, shapes_cons_of_blank blank]
      exact ih
    · have visible : n.isBlank = false := by simpa using blank
      exact .inr ⟨n, rest, sites_cons_of_visible visible, shapes_cons_of_visible visible⟩

namespace Pattern

open Shape

variable {name content : String} {cs rest : List Shape} {child next : Pattern}

/-! ### What a row asks for -/

/-- A pattern that is valid on the rows that are cut to what a row of trees is cut to. -/
def AsksFor (p : Pattern) (row : List Shape) : Prop :=
  ∀ (nodes : List Node) (parent : List Nat) (index : Nat),
    (p.verdict (Node.sites parent index nodes)).isValid ↔ cuts row = cuts (Node.shapes nodes)

theorem asksFor_nil : nil.AsksFor [] := by
  intro nodes parent index
  rcases Node.sites_cases nodes parent index with ⟨sites, shapes⟩ | ⟨n, later, sites, shapes⟩
  · rw [sites, shapes, verdict_nil_nil]
    simp
  · rw [sites, shapes, verdict_nil_cons]
    cases n with
    | element d name attributes children => simp [Node.shape]
    | text d content => simp [Node.shape]

/-- A literal asks for its text, and for nothing behind it. -/
theorem asksFor_literal : (node (.literal content) child next).AsksFor (.text content :: rest) := by
  intro nodes parent index
  rw [verdict_literal]
  rcases Node.sites_cases nodes parent index with ⟨sites, shapes⟩ | ⟨n, later, sites, shapes⟩
  · rw [sites, shapes]
    simp [Matcher.literal]
  · rw [sites, shapes]
    cases n with
    | element d name attributes children =>
      simp [Node.site, Node.shape, Matcher.literal]
    | text d content' =>
      rw [Node.site, Node.shape, cuts_text_inj, Matcher.literal]
      by_cases same : content = content'
      · simp [same]
      · simp [same, Ne.symm same]

/-- An element asks for its name, for what its chain of children asks for, and for what the rest of
its own chain does. -/
theorem asksFor_element (inner : child.AsksFor cs) (later : next.AsksFor rest) :
    (node (.element name) child next).AsksFor (.element name cs :: rest) := by
  intro nodes parent index
  rcases Node.sites_cases nodes parent index with ⟨sites, shapes⟩ | ⟨n, behind, sites, shapes⟩
  · rw [sites, shapes, verdict_element_of_ne (by simp)]
    simp
  · rw [sites, shapes]
    cases n with
    | text d content =>
      rw [Node.site, Node.shape, verdict_element_of_ne (by simp [Site.name?])]
      simp
    | element d name' attributes children =>
      rw [Node.site, Node.shape, cuts_element_inj]
      by_cases same : name = name'
      · subst same
        rw [verdict_element, ← inner children (parent ++ [index]) 0,
          ← later behind parent (index + 1)]
        split
        · next valid => simp [valid]
        · next other => simp [other]
      · rw [verdict_element_of_ne (by simpa [Site.name?] using Ne.symm same)]
        simp [same]

/-- **The pattern of a row without reserved names asks for the shape of the row.** -/
theorem asksFor_of_ofNodes (row : List Node) : ∀ {p : Pattern}, Node.Unreserved row →
    ofNodes row = .ok p → p.AsksFor (Node.shapes row) := by
  induction row using Node.row_induction with
  | nil =>
    intro p _ compiled
    rw [ofNodes] at compiled
    cases compiled
    rw [Node.shapes]
    exact asksFor_nil
  | cons n rest ihc ih =>
    intro p unreserved compiled
    obtain ⟨free, low, late⟩ := Node.unreserved_cons.mp unreserved
    by_cases blank : n.isBlank
    · rw [ofNodes_cons_of_blank blank] at compiled
      rw [Node.shapes_cons_of_blank blank]
      exact ih late compiled
    · have visible : n.isBlank = false := by simpa using blank
      obtain ⟨kind, child, next, here, behind, rfl⟩ := ofNodes_cons_of_visible visible compiled
      rw [Node.shapes_cons_of_visible visible]
      cases n with
      | text d content =>
        rw [ofNode] at here
        cases here
        rw [Node.shape]
        exact asksFor_literal
      | element d name attributes children =>
        obtain ⟨rfl, inside⟩ := ofNode_element (free name rfl) here
        rw [Node.shape]
        exact asksFor_element (ihc low inside) (ih late behind)

/-! ### Documents as templates -/

/-- No node of a row without reserved names is a reserved element. -/
theorem marker?_of_unreserved (row : List Node) : Node.Unreserved row →
    ∀ n ∈ Node.inspected row, n.marker? = none := by
  induction row using Node.row_induction with
  | nil =>
    intro _
    rw [Node.inspected]
    exact List.forall_mem_nil _
  | cons n rest ihc ih =>
    intro unreserved
    obtain ⟨free, low, late⟩ := Node.unreserved_cons.mp unreserved
    by_cases blank : n.isBlank
    · rw [Node.inspected_cons_of_blank blank]
      exact ih late
    · rw [Node.inspected_cons_of_visible (by simpa using blank), List.forall_mem_append,
        List.forall_mem_cons]
      exact ⟨ih late, Option.bind_eq_none_iff.mpr free, ihc low⟩

/-- A document that has a root and no reserved names is a template. -/
theorem exists_ofDocument {t : Document} (written : Cursor.root t ≠ [])
    (unreserved : Node.Unreserved t.top) : ∃ p, ofDocument t = .ok p := by
  rcases ofDocument_cases t with ⟨none, -⟩ | ⟨-, ⟨compiled, -⟩ | ⟨e, -, flaw⟩⟩
  · exact absurd none written
  · exact compiled
  · exact absurd
      (fun n mem => Node.wellFormed_of_plain (marker?_of_unreserved t.top unreserved n mem))
      flaw.not_forall

theorem isValid_iff_of_ofDocument {t : Document} {p : Pattern} (unreserved : Node.Unreserved t.top)
    (compiled : ofDocument t = .ok p) (d : Document) :
    (p.run d).verdict.isValid ↔ cuts t.shape = cuts d.shape :=
  asksFor_of_ofNodes t.top unreserved (ofNodes_of_ofDocument compiled) d.top [] 0

/-- A template without operators is compiled from the document that its source is. -/
theorem ofDocument_of_plain {source : String} {p : Pattern}
    (plain : OperatorFree (Tokens.ofSource source.toList).tokens)
    (compiled : Template.compile source = .ok p) :
    ∃ t, Document.read source .strict = .ok t ∧ ofDocument t = .ok p := by
  obtain ⟨markup, t, expanded, read, mirrored⟩ := ofDocument_of_compile compiled
  cases eq_of_expand plain expanded
  exact ⟨t, read, mirrored⟩

/-- **What a template without operators means.** A document that has a root and no element with a
reserved name can be compiled, and its pattern is valid on the documents that have its shape once
every row of siblings is cut behind its first text. So of two sources without operators that
compile, the template of the one is valid on the other if and only if the converse holds. -/
theorem plain_valid_iff :
    (∀ t : Document, Cursor.root t ≠ [] → Node.Unreserved t.top →
      ∃ p, ofDocument t = .ok p ∧
        ∀ d : Document, (p.run d).verdict.isValid ↔ cuts t.shape = cuts d.shape) ∧
      ∀ (source source' : String) (p p' : Pattern),
        OperatorFree (Tokens.ofSource source.toList).tokens →
        OperatorFree (Tokens.ofSource source'.toList).tokens →
        Template.compile source = .ok p → Template.compile source' = .ok p' →
        ∃ d d', Document.read source .lenient = .ok d ∧ Document.read source' .lenient = .ok d' ∧
          (Node.Unreserved d.top → Node.Unreserved d'.top →
            ((p.run d').verdict.isValid ↔ (p'.run d).verdict.isValid)) := by
  refine ⟨fun t written unreserved => ?_, fun source source' p p' plain plain' compiled compiled' =>
    ?_⟩
  · obtain ⟨p, compiled⟩ := exists_ofDocument written unreserved
    exact ⟨p, compiled, isValid_iff_of_ofDocument unreserved compiled⟩
  · obtain ⟨d, read, mirrored⟩ := ofDocument_of_plain plain compiled
    obtain ⟨d', read', mirrored'⟩ := ofDocument_of_plain plain' compiled'
    refine ⟨d, d', Document.read_lenient_of_strict read, Document.read_lenient_of_strict read',
      fun unreserved unreserved' => ?_⟩
    rw [isValid_iff_of_ofDocument unreserved mirrored,
      isValid_iff_of_ofDocument unreserved' mirrored', eq_comm]

/-- A paragraph that goes on behind its text, and one that has an attribute. -/
theorem plain_valid_iff_paragraph :
    ∃ p p' d d', OperatorFree (Tokens.ofSource "<p>a<b></b></p>".toList).tokens ∧
      OperatorFree (Tokens.ofSource "<p id=x>a</p>".toList).tokens ∧
      Template.compile "<p>a<b></b></p>" = .ok p ∧ Template.compile "<p id=x>a</p>" = .ok p' ∧
      Document.read "<p>a<b></b></p>" .lenient = .ok d ∧
      Document.read "<p id=x>a</p>" .lenient = .ok d' ∧ Cursor.root d ≠ [] ∧
      Node.Unreserved d.top ∧ Node.Unreserved d'.top ∧ cuts d.shape = cuts d'.shape ∧
      ofDocument d = .ok p ∧ (p.run d').verdict.isValid ∧ (p'.run d).verdict.isValid := by
  have compiled : Template.compile "<p>a<b></b></p>" = .ok (node (.element "html")
      (node (.element "body") (node (.element "p") (node (.literal "a") nil
        (node (.element "b") nil nil)) nil) nil) nil) := by cbv
  have compiled' : Template.compile "<p id=x>a</p>" = .ok (node (.element "html")
      (node (.element "body") (node (.element "p") (node (.literal "a") nil nil) nil) nil)
        nil) := by cbv
  have free : OperatorFree (Tokens.ofSource "<p>a<b></b></p>".toList).tokens :=
    operatorFree_of_plain (by decide)
  have free' : OperatorFree (Tokens.ofSource "<p id=x>a</p>".toList).tokens :=
    operatorFree_of_plain (by decide)
  obtain ⟨d, d', read, read', both⟩ := plain_valid_iff.2 _ _ _ _ free free' compiled compiled'
  have top : Document.read "<p>a<b></b></p>" .lenient = .ok ⟨[.element 0 "html" []
      [.element 1 "body" [] [.element 2 "p" [] [.text 3 "a", .element 3 "b" [] []]]]]⟩ := by cbv
  have top' : Document.read "<p id=x>a</p>" .lenient = .ok ⟨[.element 0 "html" []
      [.element 1 "body" [] [.element 2 "p" [("id", "x")] [.text 3 "a"]]]]⟩ := by cbv
  cases read.symm.trans top
  cases read'.symm.trans top'
  have unreserved : Node.Unreserved [.element 0 "html" [] [.element 1 "body" []
      [.element 2 "p" [] [.text 3 "a", .element 3 "b" [] []]]]] := by
    simp [Node.Unreserved, Node.walk, Node.name?, Marker.ofName?, Marker.all, Marker.name]
  have unreserved' : Node.Unreserved [.element 0 "html" [] [.element 1 "body" []
      [.element 2 "p" [("id", "x")] [.text 3 "a"]]]] := by
    simp [Node.Unreserved, Node.walk, Node.name?, Marker.ofName?, Marker.all, Marker.name]
  have written : Cursor.root ⟨[.element 0 "html" [] [.element 1 "body" []
      [.element 2 "p" [] [.text 3 "a", .element 3 "b" [] []]]]]⟩ ≠ [] := List.cons_ne_nil _ _
  obtain ⟨p, mirrored, valid⟩ := plain_valid_iff.1 _ written unreserved
  obtain rfl := Except.ok.inj (mirrored.symm.trans (by cbv))
  have same : cuts (Document.shape ⟨[.element 0 "html" [] [.element 1 "body" []
      [.element 2 "p" [] [.text 3 "a", .element 3 "b" [] []]]]]⟩) =
      cuts (Document.shape ⟨[.element 0 "html" [] [.element 1 "body" []
        [.element 2 "p" [("id", "x")] [.text 3 "a"]]]]⟩) := by cbv
  have one := (valid _).mpr same
  exact ⟨_, _, _, _, free, free', compiled, compiled', read, read', written, unreserved,
    unreserved', same, mirrored, one, (both unreserved unreserved').mp one⟩

end Pattern

end Stencil
