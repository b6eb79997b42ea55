import Stencil.Proofs.Document.Root
import Stencil.Proofs.Matching.Progress
import Stencil.Proofs.Matching.Verdict
import Stencil.Proofs.Template.Compiled

/-!
# Matching — roots

Templates and documents have one `html` at their root, with a `body` among its children. So a run
looks at the children of the `html` and comes to its end behind it: it tells no text, and what is
left over lies below the root (`Pattern.reading_in_normal_form`).
-/

namespace Stencil

open Template

/-! ### Rows without their blank texts -/

namespace Node

variable {n : Node} {rest row : List Node}

theorem sites_visible (row : List Node) : ∀ parent index,
    sites parent index (Document.visible row) = sites parent index row := by
  induction row with
  | nil => exact fun _ _ => rfl
  | cons n rest ih =>
    intro parent index
    by_cases blank : n.isBlank
    · rw [sites_cons_of_blank blank, ← ih, Document.visible,
        List.filter_cons_of_neg (by simp [blank])]
      rfl
    · have shown : n.isBlank = false := by simpa using blank
      rw [sites_cons_of_visible shown, ← ih, Document.visible,
        List.filter_cons_of_pos (by simp [shown]), sites_cons_of_visible shown]
      rfl

/-- Nothing in or below a row is higher up than the row. -/
theorem le_depth_of_mem_sites (row : List Node) :
    ∀ level parent index {t : Site} {after : List Site}, Leveled level row →
      t :: after ∈ Site.positions (sites parent index row) → level ≤ t.depth := by
  induction row using row_induction with
  | nil =>
    intro level parent index t after _ mem
    rw [sites] at mem
    exact absurd mem Site.not_mem_positions_nil
  | cons n rest ihc ih =>
    intro level parent index t after leveled mem
    obtain ⟨here, inner, later⟩ := leveled_cons.mp leveled
    by_cases blank : n.isBlank
    · rw [sites_cons_of_blank blank] at mem
      exact ih level parent index later mem
    · rw [sites_cons_of_visible (by simpa using blank)] at mem
      rcases Site.mem_positions_cons.mp mem with first | low | late
      · cases first
        rw [Site.depth, place_site, here]
      · rw [children_site] at low
        exact Nat.le_of_succ_le (ihc (level + 1) _ 0 inner low)
      · exact ih level parent (index + 1) later late

end Node

namespace Pattern

variable {n : Node} {row rest : List Node} {p : Pattern} {name : String}

theorem ofNodes_visible (row : List Node) : ofNodes (Document.visible row) = ofNodes row := by
  induction row with
  | nil => rfl
  | cons n rest ih =>
    by_cases blank : n.isBlank
    · rw [ofNodes_cons_of_blank blank, ← ih, Document.visible,
        List.filter_cons_of_neg (by simp [blank])]
      rfl
    · have shown : n.isBlank = false := by simpa using blank
      rw [Document.visible, List.filter_cons_of_pos (by simp [shown]), ofNodes, ofNodes, ← ih]
      rfl

/-- An element without a reserved name is asked for where it stands. -/
theorem mem_walk_of_ofNodes {d : Nat} {attributes : List Markup.Attribute} {children : List Node}
    (free : Marker.ofName? name = none) (level : Nat) (compiled : ofNodes row = .ok p)
    (mem : .element d name attributes children ∈ row) :
    (level, .element name) ∈ p.walk level := by
  induction row generalizing p with
  | nil => cases mem
  | cons n rest ih =>
    by_cases blank : n.isBlank
    · rw [ofNodes_cons_of_blank blank] at compiled
      rcases List.mem_cons.mp mem with rfl | mem
      · cases blank
      · exact ih compiled mem
    · obtain ⟨kind, child, next, here, behind, rfl⟩ :=
        ofNodes_cons_of_visible (by simpa using blank) compiled
      rw [walk]
      rcases List.mem_cons.mp mem with rfl | mem
      · rw [(ofNode_element free here).1]
        exact List.mem_cons_self
      · exact List.mem_cons_of_mem _ (List.mem_append_right _ (ih behind mem))

/-! ### The root of a template -/

/-- A pattern that asks for an `html` with a `body` among its children, and for nothing else. -/
def IsRooted (p : Pattern) : Prop :=
  ∃ child, p = node (.element "html") child nil ∧ (0, .element "body") ∈ child.walk 0

/-- **Templates that compile ask for an `html` with a `body`.** -/
theorem isRooted_of_compile {template : String} (compiled : compile template = .ok p) :
    p.IsRooted := by
  obtain ⟨markup, d, -, read, compiled⟩ := ofDocument_of_compile compiled
  have whole := ofNodes_of_ofDocument compiled
  rw [← ofNodes_visible] at whole
  cases Document.rootForm_of_read read with
  | blank _ root =>
    -- a template that is blank does not compile
    rw [Document.visible_of_root root, ofNodes] at whole
    cases whole
    exact absurd rfl (ne_nil_of_ofDocument compiled)
  | @html attributes children after body _ top mem named =>
    rw [top] at whole
    obtain ⟨kind, child, next, here, behind, rfl⟩ := ofNodes_cons_of_visible rfl whole
    obtain ⟨rfl, inside⟩ := ofNode_element (by decide) here
    cases behind
    refine ⟨child, rfl, ?_⟩
    cases body with
    | text d content => cases named
    | element d name attributes children =>
      obtain rfl : name = "body" := by simpa [Node.isNamed, Node.name?] using named
      exact mem_walk_of_ofNodes (by decide) 0 inside (List.mem_of_mem_filter mem)

/-! ### Runs -/

theorem run_blank {child : Pattern} {d : Document} (nothing : Document.visible d.top = []) :
    ((node (.element "html") child nil).run d).verdict = .invalid := by
  have outline : d.outline = [] := by
    rw [Document.outline, ← Node.sites_visible, nothing, Node.sites]
  rw [run, outline, matcher]
  rfl

/-- Where a pattern asks for an `html` and nothing else, a run on an `html` that is alone is valid
without a text, or comes to what its children come to. -/
theorem run_html {child : Pattern} {d : Document} {depth : Nat} {attributes : List Markup.Attribute}
    {children : List Node}
    (alone : Document.visible d.top = [.element depth "html" attributes children]) :
    ((node (.element "html") child nil).run d).verdict =
      if (child.verdict (Node.sites [0] 0 children)).isValid then .valid none
      else child.verdict (Node.sites [0] 0 children) := by
  have outline : d.outline = [.element ⟨[0], depth⟩ "html" (Node.sites [0] 0 children)] := by
    rw [Document.outline, ← Node.sites_visible, alone, Node.sites_cons_of_visible rfl, Node.site,
      Node.sites]
    rfl
  rw [run, verdict_matcher, outline, verdict_element, verdict_nil_nil]

/-- A run that asks for an `html` and nothing else tells no text, and what is left over lies below
the root. -/
theorem verdict_of_isRooted {source : String} {mode : Mode} {d : Document} (rooted : p.IsRooted)
    (read : Document.read source mode = .ok d) :
    (p.run d).verdict.text? = none ∧ ∀ t ∈ (p.run d).verdict.site?, 0 < t.depth := by
  obtain ⟨child, rfl, -⟩ := rooted
  cases Document.rootForm_of_read read with
  | blank _ root =>
    rw [run_blank (Document.visible_of_root root)]
    exact ⟨rfl, nofun⟩
  | @html attributes children after body _ top mem named =>
    have here : .element 0 "html" attributes children ∈ d.top :=
      List.mem_of_mem_filter (top ▸ List.mem_singleton_self _)
    have inner : Node.Leveled 1 children :=
      (Node.leveled_iff_forall.mp (Document.leveled_of_read read) _ here).2
    rw [run_html top]
    cases e : child.verdict (Node.sites [0] 0 children) with
    | valid text => exact ⟨rfl, nofun⟩
    | invalid => exact ⟨rfl, nofun⟩
    | leftover t after =>
      refine ⟨rfl, ?_⟩
      rintro _ ⟨⟩
      exact Node.le_depth_of_mem_sites children 1 [0] 0 inner (mem_positions_of_verdict e)

/-- **Every document is read into normal form.** It is blank, or has an `html` at its root, with a
`body` among its children and only blank texts beside it; and its nodes record how deep they are
nested, so that in its arena every record that moves from the first one lead to has the depth that
is told by the number of moves to a first child. A template that compiles asks for such an `html`
and nothing else, and a run of it on a document that was read is never valid with a text, and leaves
nothing over at the depth of the root. -/
theorem reading_in_normal_form {source : String} {mode : Mode} {d : Document}
    (read : Document.read source mode = .ok d) :
    d.RootForm ∧ Node.Leveled 0 d.top ∧
      (∃ arena ids, Arena.read source mode = .ok arena ∧ arena.Holds ids d.top ∧
        ∀ level i, Leads arena.records arena.first level (some i) →
          ∃ r, arena.records[i]? = some r ∧ r.depth = level) ∧
      ∀ template p, Template.compile template = .ok p →
        p.IsRooted ∧ (p.run d).verdict.text? = none ∧
          ∀ t ∈ (p.run d).verdict.site?, 0 < t.depth := by
  refine ⟨Document.rootForm_of_read read, Document.leveled_of_read read, Arena.depth_of_read read,
    fun template p compiled => ?_⟩
  have rooted := isRooted_of_compile compiled
  exact ⟨rooted, verdict_of_isRooted rooted read⟩

/-- A list that is left over behind a paragraph. -/
theorem reading_in_normal_form_paragraph :
    ∃ d p, Document.read " <p>x</p><ul></ul>" .lenient = .ok d ∧
      Template.compile "<p>x</p>" = .ok p ∧ d.RootForm ∧ p.IsRooted ∧
      ∃ t after, (p.run d).verdict = .leftover t after ∧ 0 < t.depth := by
  let d : Document := ⟨[.element 0 "html" [] [.element 1 "body" []
    [.text 2 " ", .element 2 "p" [] [.text 3 "x"], .element 2 "ul" [] []]]]⟩
  let p : Pattern := node (.element "html") (node (.element "body")
    (node (.element "p") (node (.literal "x") nil nil) nil) nil) nil
  have read : Document.read " <p>x</p><ul></ul>" .lenient = .ok d := by cbv
  have compiled : Template.compile "<p>x</p>" = .ok p := by cbv
  have left : (p.run d).verdict = .leftover (.element ⟨[0, 0, 1], 2⟩ "ul" []) [] := by cbv
  obtain ⟨form, -, -, templates⟩ := reading_in_normal_form read
  obtain ⟨rooted, -, deep⟩ := templates _ p compiled
  exact ⟨d, p, read, compiled, form, rooted, _, _, left, deep _ (by rw [left]; rfl)⟩

end Pattern

end Stencil
