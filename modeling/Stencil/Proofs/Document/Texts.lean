import Stencil.Document.Normal
import Stencil.Matching.Matcher
import Stencil.Proofs.Document.Outline

/-!
# Document — texts

What stands in a document as text: the content of a text, or a run of texts and line breaks, joined,
with blank texts passed over. A run in the outline is the run in the document
(`Node.textRun_sites`), so what a match reads at a position of the outline stands in the document
(`Document.shows_of_mem`).
-/

namespace Stencil

namespace Node

/-- Whether a node goes on with a run of texts, as a text and a line break do. -/
def inRun (n : Node) : Bool := n.text?.isSome || n.isNamed "br"

/-- What a node of a run reads: a text its content, a line break a line end. -/
def reading : Node → String
  | element _ _ _ _ => "\n"
  | text _ content => content

/-- The longest run of texts and line breaks at the start of a row, without blank texts, joined. -/
def runText (row : List Node) : String :=
  String.join (((Document.visible row).takeWhile inRun).map reading)

/-- The cursors of a row and of what is below it, in document order: each node with the siblings
after it. -/
def cursors : List Node → List Cursor
  | [] => []
  | .element d name attributes cs :: rest =>
    (.element d name attributes cs :: rest) :: (cursors cs ++ cursors rest)
  | .text d content :: rest => (.text d content :: rest) :: cursors rest

variable {n : Node} {rest row : List Node} {parent : List Nat} {index : Nat}

theorem cursors_cons (n : Node) (rest : List Node) :
    cursors (n :: rest) = (n :: rest) :: (cursors n.children ++ cursors rest) := by
  cases n with
  | element d name attributes cs => rw [cursors]; rfl
  | text d content =>
    rw [cursors, children, cursors]
    rfl

theorem mem_cursors_self (n : Node) (rest : List Node) : n :: rest ∈ cursors (n :: rest) := by
  rw [cursors_cons]
  exact List.mem_cons_self

theorem mem_cursors_of_children {c : Cursor} (h : c ∈ cursors n.children) :
    c ∈ cursors (n :: rest) := by
  rw [cursors_cons]
  exact List.mem_cons_of_mem _ (List.mem_append_left _ h)

theorem mem_cursors_of_tail {c : Cursor} (h : c ∈ cursors rest) : c ∈ cursors (n :: rest) := by
  rw [cursors_cons]
  exact List.mem_cons_of_mem _ (List.mem_append_right _ h)

/-! ### Runs in outlines -/

theorem runText_cons_of_blank (h : n.isBlank) : runText (n :: rest) = runText rest := by
  rw [runText, Document.visible, List.filter_cons_of_neg (by simp [h])]
  rfl

theorem runText_cons_of_visible (h : n.isBlank = false) :
    runText (n :: rest) = if n.inRun then n.reading ++ runText rest else "" := by
  rw [runText, Document.visible, List.filter_cons_of_pos (by simp [h]), List.takeWhile_cons]
  split
  · rw [List.map_cons, String.join_cons]
    rfl
  · rfl

/-- **A run in an outline is the run in the row**, since outlines pass over blank texts. -/
theorem textRun_sites (row : List Node) : ∀ parent index,
    Matcher.textRun (sites parent index row) = runText row := by
  induction row with
  | nil => exact fun _ _ => by rw [sites]; rfl
  | cons n rest ih =>
    intro parent index
    by_cases blank : n.isBlank
    · rw [sites_cons_of_blank blank, runText_cons_of_blank blank]
      exact ih parent index
    · have visible : n.isBlank = false := by simpa using blank
      rw [sites_cons_of_visible visible, runText_cons_of_visible visible]
      cases n with
      | element d name attributes cs =>
        rw [site, Matcher.textRun, ih]
        simp [inRun, text?, isNamed, name?, reading]
      | text d content =>
        rw [site, Matcher.textRun, ih]
        simp [inRun, text?, reading]

/-- The positions of an outline are the outlines of the cursors at nodes that are not blank. -/
theorem cursor_of_mem_sites (row : List Node) : ∀ parent index {t : Site} {after : List Site},
    t :: after ∈ Site.positions (sites parent index row) →
    ∃ n rest path i, n :: rest ∈ cursors row ∧ n.isBlank = false ∧
      t :: after = sites path i (n :: rest) := by
  induction row using row_induction with
  | nil =>
    intro parent index t after h
    rw [sites] at h
    exact absurd h Site.not_mem_positions_nil
  | cons n rest ihc ih =>
    intro parent index t after h
    by_cases blank : n.isBlank
    · rw [sites_cons_of_blank blank] at h
      obtain ⟨m, behind, path, i, mem, visible, eq⟩ := ih parent index h
      exact ⟨m, behind, path, i, mem_cursors_of_tail mem, visible, eq⟩
    · have visible : n.isBlank = false := by simpa using blank
      rw [sites_cons_of_visible visible] at h
      rcases Site.mem_positions_cons.mp h with here | low | late
      · refine ⟨n, rest, parent, index, mem_cursors_self n rest, visible, ?_⟩
        rw [here, sites_cons_of_visible visible]
      · rw [children_site] at low
        obtain ⟨m, behind, path, i, mem, visible, eq⟩ := ihc _ 0 low
        exact ⟨m, behind, path, i, mem_cursors_of_children mem, visible, eq⟩
      · obtain ⟨m, behind, path, i, mem, visible, eq⟩ := ih parent (index + 1) late
        exact ⟨m, behind, path, i, mem_cursors_of_tail mem, visible, eq⟩

@[simp] theorem text?_site (path : List Nat) (n : Node) : (n.site path).text? = n.text? := by
  cases n with
  | element d name attributes cs => rw [site]; rfl
  | text d content => rw [site]; rfl

end Node

namespace Document

variable {d : Document} {value : String}

/-- A text is empty, or it stands in a document: as the content of a text, or as the longest run of
texts and line breaks from a node on. -/
def Shows (d : Document) (value : String) : Prop :=
  value = "" ∨ ∃ n rest, n :: rest ∈ Node.cursors d.top ∧ n.isBlank = false ∧
    (n.text? = some value ∨ Node.runText (n :: rest) = value)

/-- A text at a position of the outline, or a run there, stands in the document. -/
theorem shows_of_mem {t : Site} {after : List Site} (mem : t :: after ∈ d.positions)
    (h : t.text? = some value ∨ Matcher.textRun (t :: after) = value) : d.Shows value := by
  obtain ⟨n, rest, path, i, here, visible, eq⟩ := Node.cursor_of_mem_sites d.top [] 0 mem
  refine .inr ⟨n, rest, here, visible, ?_⟩
  rw [eq, Node.textRun_sites] at h
  rw [Node.sites_cons_of_visible visible, List.cons.injEq] at eq
  rwa [eq.1, Node.text?_site] at h

end Document

end Stencil
