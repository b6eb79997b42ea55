import Stencil.Proofs.Arena.Lossless

/-!
# Document — roots

What stands at the top of a document that was read (`Document.rootForm_of_read`): nothing but blank
texts, or one `html` with a `body` among its children. The records of the arena of a source know how
far they are below it, wherever the links lead (`Arena.depth_of_read`).
-/

namespace Stencil

namespace Node

variable {row : List Node}

theorem children_of_blank {n : Node} (h : n.isBlank) : n.children = [] := by
  cases n with
  | element d name attributes cs => cases h
  | text d content => rfl

/-- There is nothing below blank texts. -/
theorem walk_of_blank (h : ∀ n ∈ row, n.isBlank) (level : Nat) :
    walk level row = row.map fun n => (level, n) := by
  induction row with
  | nil => rw [walk, List.map_nil]
  | cons n rest ih =>
    obtain ⟨here, later⟩ := List.forall_mem_cons.mp h
    rw [walk_cons, children_of_blank here, walk, ih later, List.map_cons]
    rfl

end Node

namespace Document

variable {row children : List Node} {d : Document}

/-- What stands at the top of a document in normal form. -/
inductive RootForm (d : Document) : Prop
  /-- Nothing but blank texts. -/
  | blank : (∀ x ∈ Node.walk 0 d.top, x.2.isBlank) → Cursor.root d = [] → RootForm d
  /-- An `html` that has a `body` among its children, and beside it nothing but blank texts. -/
  | html {attributes : List Markup.Attribute} {children after : List Node} {body : Node} :
      Cursor.root d = .element 0 "html" attributes children :: after →
      visible d.top = [.element 0 "html" attributes children] →
      body ∈ visible children → body.isNamed "body" → RootForm d

theorem visible_of_root (h : Cursor.root d = []) : visible d.top = [] := by
  simpa [visible, Cursor.root, Cursor.skipBlank] using h

theorem any_body_withBody (children : List Node) :
    (visible (withBody children)).any (·.isNamed "body") := by
  by_cases h : (visible children).any (·.isNamed "body")
  · rw [withBody_of_body h]
    exact h
  · rw [withBody, if_neg h]
    split
    · split
      · simp [visible, Node.isBlank, Node.isNamed, Node.name?]
      · rfl
    · rfl

/-- The `html` that alone is not blank is the root. -/
theorem rootForm_of_visible {attributes : List Markup.Attribute}
    (h : visible d.top = [.element 0 "html" attributes (withBody children)]) : d.RootForm := by
  obtain ⟨body, mem, named⟩ := List.any_eq_true.mp (any_body_withBody children)
  obtain ⟨early, late, split, blank, shown, -⟩ := List.filter_eq_cons_iff.mp h
  replace blank : ∀ m ∈ early, m.isBlank := by simpa using blank
  have root : Cursor.root d = .element 0 "html" attributes (withBody children) :: late := by
    rw [Cursor.root, Cursor.skipBlank, split, List.dropWhile_append_of_pos blank,
      List.dropWhile_cons_of_neg (by simpa using shown)]
  exact .html root h mem named

/-- **A document that was read has an `html` with a `body` at its root, or is blank.** -/
theorem rootForm_of_read {source : String} {mode : Mode} (h : read source mode = .ok d) :
    d.RootForm := by
  have leveled := leveled_of_read h
  obtain ⟨top, -, rfl⟩ := ok_of_map h
  cases first : visible top with
  | nil =>
    have blank : ∀ n ∈ top, n.isBlank := by simpa [visible] using first
    refine .blank ?_ ?_
    · simpa [normalized_of_blank first, Node.walk_of_blank blank] using blank
    · rw [Cursor.root, normalized_of_blank first]
      exact List.dropWhile_eq_nil_iff.mpr blank
  | cons n more =>
    obtain ⟨early, late, rfl, blank, shown, rfl⟩ := List.filter_eq_cons_iff.mp first
    replace blank : ∀ m ∈ early, m.isBlank := by simpa using blank
    replace shown : n.isBlank = false := by simpa using shown
    by_cases alone : visible late = [] ∧ n.isNamed "html"
    · cases n with
      | text d content => cases alone.2
      | element depth name attributes cs =>
        obtain rfl : name = "html" := by simpa [Node.isNamed, Node.name?] using alone.2
        rw [normalized_of_html blank shown alone.1 alone.2] at leveled ⊢
        obtain rfl : depth = 0 :=
          (Node.leveled_cons.mp (Node.leveled_append.mp leveled).2).1
        have kept : visible (early ++ completed (.element 0 "html" attributes cs) :: late) =
            [.element 0 "html" attributes (withBody cs)] := by
          rw [visible_append_cons blank rfl, alone.1]
          rfl
        exact rootForm_of_visible kept
    · rw [normalized_of_other blank shown fun none html => alone ⟨none, html⟩]
      exact rootForm_of_visible rfl

end Document

/-- **The records of the arena of a source know how deep they are nested**, wherever moves to first
children and to next siblings lead. -/
theorem Arena.depth_of_read {source : String} {mode : Mode} {d : Document}
    (h : Document.read source mode = .ok d) :
    ∃ arena ids, Arena.read source mode = .ok arena ∧ arena.Holds ids d.top ∧
      ∀ level i, Leads arena.records arena.first level (some i) →
        ∃ r, arena.records[i]? = some r ∧ r.depth = level := by
  obtain ⟨arena, ids, reads, holds⟩ := Arena.holds_of_read h
  exact ⟨arena, ids, reads, holds, fun level i leads =>
    leads.depth_eq holds.spells (Document.leveled_of_read h)⟩

end Stencil
