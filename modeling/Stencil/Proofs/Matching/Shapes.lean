import Mathlib
import Stencil.Proofs.Document.Shape
import Stencil.Proofs.Matching.Told
import Stencil.Template.Compile

/-!
# Matching — only the shape of a document matters

Two documents that were read and are alike but for their blank texts and their attributes give the
same match, and the nodes that it tells of are at the same place in both
(`Pattern.only_shape_matters`).
-/

namespace Stencil

namespace Site

theorem mem_of_foldl_deeper {t : Site} (row : List Site) : ∀ first : Option Site,
    row.foldl deeper first = some t → first = some t ∨ t ∈ row := by
  induction row with
  | nil => exact fun _ found => .inl found
  | cons s rest ih =>
    intro first found
    rcases ih _ found with now | later
    · cases first with
      | none =>
        cases now
        exact .inr List.mem_cons_self
      | some earlier =>
        rw [deeper] at now
        split at now
        · cases now
          exact .inr List.mem_cons_self
        · exact .inl now
    · exact .inr (List.mem_cons_of_mem s later)

end Site

namespace Attempt

theorem mem_ranOut_of_deepest {a : Attempt} {t : Site} (h : a.deepest = some t) : t ∈ a.ranOut :=
  (Site.mem_of_foldl_deeper a.ranOut none h).resolve_left nofun

/-- The nodes that an answer tells of: the one that is left over, and the deepest one before which
some part of the pattern ran out. -/
def TellsOf (a : Attempt) (t : Site) : Prop := a.verdict.site? = some t ∨ a.deepest = some t

end Attempt

namespace Pattern

/-- The nodes that a run tells of are nodes of the outline. -/
theorem mem_positions_of_tellsOf {p : Pattern} {d : Document} {t : Site}
    (h : (p.run d).TellsOf t) : ∃ after, t :: after ∈ d.positions := by
  rcases h with left | deep
  · cases e : (p.run d).verdict with
    | leftover y after =>
      rw [e] at left
      cases left
      exact ⟨after, mem_positions_of_verdict e⟩
    | valid text =>
      rw [e] at left
      cases left
    | invalid =>
      rw [e] at left
      cases left
  · obtain ⟨x, mem, ran⟩ := List.mem_filterMap.mp (Attempt.mem_ranOut_of_deepest deep)
    cases x with
    | captured name value scope => cases ran
    | ranOut y =>
      cases ran
      exact (p.told_matcher d.outline .fresh).trace _ mem

/-- **Only the shape of a document matters.** Where two documents were read and are the same without
their blank texts and attributes, a pattern makes the same of both: verdict and text, scope, what is
told to handlers and the nodes before which the pattern ran out. In both, the moves over the path of
a node that is told of lead to the same shape, and to the node that is told of. -/
theorem only_shape_matters (p : Pattern) {source source' : String} {mode mode' : Mode}
    {d d' : Document} (read : Document.read source mode = .ok d)
    (read' : Document.read source' mode' = .ok d') (same : d.shape = d'.shape) :
    p.run d = p.run d' ∧ ∀ t, (p.run d).TellsOf t →
      Node.shapes (d.reach t) = Node.shapes (d'.reach t) ∧
      (d.reach t).head?.map (·.site t.place.path) = some t ∧
      (d'.reach t).head?.map (·.site t.place.path) = some t := by
  have outlines : d.outline = d'.outline :=
    Document.outline_eq_of_shape (Document.leveled_of_read read) (Document.leveled_of_read read') same
  have runs : p.run d = p.run d' := by rw [run, run, outlines]
  refine ⟨runs, fun t told => ⟨Document.shapes_reach same t, ?_, ?_⟩⟩
  · obtain ⟨after, mem⟩ := mem_positions_of_tellsOf told
    obtain ⟨n, rest, reached, eq⟩ := Document.reached_of_mem mem
    rw [reached, List.head?_cons, Option.map_some, eq]
  · obtain ⟨after, mem⟩ := mem_positions_of_tellsOf (runs ▸ told)
    obtain ⟨n, rest, reached, eq⟩ := Document.reached_of_mem mem
    rw [reached, List.head?_cons, Option.map_some, eq]

/-- A page that is written without any space and one that is written line by line. -/
theorem only_shape_matters_lines :
    ∃ p d d' t, Template.compile "<p>\x7b$x\x7d\x7b...\x7d\x7b/$x\x7d</p>" = .ok p ∧
      Document.read "<p id=a>x</p><b></b>" .lenient = .ok d ∧
      Document.read "<body>\n <p>x</p>\n <!-- y -->\n <b/>\n</body>" .strict = .ok d' ∧
      d.shape = d'.shape ∧ (p.run d).TellsOf t ∧ t.describe = "<b>" ∧ p.run d = p.run d' ∧
      (d'.reach t).head?.map (·.site t.place.path) = some t := by
  have read : Document.read "<p id=a>x</p><b></b>" .lenient = .ok ⟨[.element 0 "html" []
      [.element 1 "body" [] [.element 2 "p" [("id", "a")] [.text 3 "x"],
        .element 2 "b" [] []]]]⟩ := by cbv
  have read' : Document.read "<body>\n <p>x</p>\n <!-- y -->\n <b/>\n</body>" .strict =
      .ok ⟨[.element 0 "html" [] [.element 1 "body" [] [.text 2 "\n ",
        .element 2 "p" [] [.text 3 "x"], .text 2 "\n \n ", .element 2 "b" [] [],
        .text 2 "\n"]]]⟩ := by cbv
  have alike := only_shape_matters (node (.element "html") (node (.element "body")
    (node (.element "p") (node (.capture "x") (node .wildcard nil nil) nil) nil) nil) nil)
    read read' (by cbv)
  have told : ((node (.element "html") (node (.element "body")
    (node (.element "p") (node (.capture "x") (node .wildcard nil nil) nil) nil) nil) nil).run
      ⟨[.element 0 "html" []
      [.element 1 "body" [] [.element 2 "p" [("id", "a")] [.text 3 "x"],
        .element 2 "b" [] []]]]⟩).TellsOf (.element ⟨[0, 0, 1], 2⟩ "b" []) := .inl (by cbv)
  exact ⟨_, _, _, _, by cbv, read, read', by cbv, told, by cbv, alike.1, (alike.2 _ told).2.2⟩

end Pattern

end Stencil
