import Mathlib.Data.List.Chain
import Stencil.Proofs.Arena.Lossless
import Stencil.Proofs.Document.Invariant
import Stencil.Proofs.Document.Texts

/-!
# Document — tidy documents

In a document that was read, no text is empty, no two texts stand side by side, and no element of a
void name has a child, whatever stands between the pieces of a text and however the element is
written; the records of its arena tell the same of the links between them (`Document.tidy_of_read`).
A tree under way is tidy at each of its levels (`Assembly.tidy_invariant`), for a text goes on with a
text that is the last node, and only elements that can have content are opened.
-/

namespace Stencil

open Markup

namespace Node

variable {n : Node} {row row' rest : List Node} {name : String} {attributes : List Attribute}

/-- Two nodes that are not both texts. -/
def Apart (n m : Node) : Prop := n.text? = none ∨ m.text? = none

/-- A node that is no empty text, and no element of a void name with children. -/
structure Sound (n : Node) : Prop where
  written : n.text? ≠ some ""
  void : ∀ name, n.name? = some name → isVoid name → n.children = []

/-- The nodes of a row and of what is below it are sound, and none of them is a text next to another
one. -/
def Tidy (row : List Node) : Prop :=
  ∀ n rest, n :: rest ∈ cursors row → n.Sound ∧ ∀ m ∈ rest.head?, Apart n m

theorem tidy_nil : Tidy [] := by simp [Tidy, cursors]

theorem tidy_cons : Tidy (n :: rest) ↔
    (n.Sound ∧ ∀ m ∈ rest.head?, Apart n m) ∧ Tidy n.children ∧ Tidy rest := by
  constructor
  · exact fun h => ⟨h n rest (mem_cursors_self n rest),
      fun m after mem => h m after (mem_cursors_of_children mem),
      fun m after mem => h m after (mem_cursors_of_tail mem)⟩
  · rintro ⟨here, inner, later⟩ m after mem
    rw [cursors_cons, List.mem_cons, List.mem_append] at mem
    rcases mem with eq | low | late
    · cases eq
      exact here
    · exact inner m after low
    · exact later m after late

/-- A row is tidy where its texts are apart, and its nodes one by one. -/
theorem tidy_iff_isChain : Tidy row ↔
    row.IsChain Apart ∧ ∀ n ∈ row, n.Sound ∧ Tidy n.children := by
  induction row with
  | nil => simp [tidy_nil]
  | cons n rest ih =>
    rw [tidy_cons, List.isChain_cons, List.forall_mem_cons, ih]
    tauto

theorem tidy_append : Tidy (row ++ row') ↔
    Tidy row ∧ Tidy row' ∧ ∀ n ∈ row.getLast?, ∀ m ∈ row'.head?, Apart n m := by
  rw [tidy_iff_isChain, tidy_iff_isChain, tidy_iff_isChain, List.isChain_append,
    List.forall_mem_append]
  tauto

theorem tidy_reverse (h : Tidy row) : Tidy row.reverse := by
  rw [tidy_iff_isChain] at h ⊢
  refine ⟨List.isChain_reverse.mpr (h.1.imp fun _ _ => Or.symm), fun n mem => ?_⟩
  exact h.2 n (List.mem_reverse.mp mem)

/-- A row that is changed node by node, so that texts stay texts and only they. -/
theorem tidy_map {f : Node → Node} (h : Tidy row) (same : ∀ n, (f n).text? = n.text?)
    (kept : ∀ n ∈ row, n.Sound → Tidy n.children → (f n).Sound ∧ Tidy (f n).children) :
    Tidy (row.map f) := by
  rw [tidy_iff_isChain] at h ⊢
  refine ⟨(List.isChain_map f).mpr (h.1.imp fun n m apart => ?_), List.forall_mem_map.mpr ?_⟩
  · rw [Apart, same, same]
    exact apart
  · exact fun n mem => kept n mem (h.2 n mem).1 (h.2 n mem).2

/-! ### Elements and texts -/

/-- An element is sound if it has no children, or can have some. -/
theorem sound_element {d : Nat} {children : List Node} (h : isVoid name → children = []) :
    (element d name attributes children).Sound where
  written := by simp [text?]
  void _ named void := by
    cases named
    exact h void

/-- A text that is not empty is sound. -/
theorem sound_text {d : Nat} {content : String} (h : content ≠ "") : (text d content).Sound where
  written := by simpa [text?] using h
  void _ named _ := by cases named

theorem tidy_element {d : Nat} {children : List Node} (h : isVoid name → children = [])
    (inner : Tidy children) (later : Tidy rest) :
    Tidy (.element d name attributes children :: rest) :=
  tidy_cons.mpr ⟨⟨sound_element h, fun _ _ => .inl rfl⟩, inner, later⟩

theorem tidy_text {d : Nat} {content : String} (h : content ≠ "")
    (apart : ∀ m ∈ rest.head?, m.text? = none) (later : Tidy rest) :
    Tidy (.text d content :: rest) :=
  tidy_cons.mpr ⟨⟨sound_text h, fun m mem => .inr (apart m mem)⟩, tidy_nil, later⟩

@[simp] theorem text?_deepen (n : Node) : n.deepen.text? = n.text? := by
  cases n with
  | element d name attributes cs => rw [deepen]; rfl
  | text d content => rw [deepen]; rfl

theorem sound_deepen (h : n.Sound) : n.deepen.Sound where
  written := by rw [text?_deepen]; exact h.written
  void name named void := by
    have same : n.name? = some name := by
      cases n with
      | element d name attributes cs => rw [deepen] at named; exact named
      | text d content => rw [deepen] at named; exact named
    rw [children_deepen, h.void name same void, List.map_nil]

theorem tidy_deepen (row : List Node) : Tidy row → Tidy (row.map deepen) := by
  induction row using row_induction with
  | nil => exact fun h => h
  | cons n rest ihc ih =>
    intro h
    obtain ⟨⟨here, apart⟩, inner, later⟩ := tidy_cons.mp h
    rw [List.map_cons, tidy_cons, children_deepen]
    refine ⟨⟨sound_deepen here, ?_⟩, ihc inner, ih later⟩
    simpa [Apart] using apart

end Node

/-! ### Trees under way -/

namespace Assembly

variable {a : Assembly} {mode : Mode}

/-- The rows of a tree under way are tidy, and the open elements can have content. -/
structure Tidy (a : Assembly) : Prop where
  siblings : Node.Tidy a.siblings
  around : ∀ o ∈ a.enclosing, isVoid o.name = false ∧ Node.Tidy o.earlier

/-- A text goes on with a text that is the last node, so that the two do not stand side by side. -/
theorem Tidy.write (h : a.Tidy) (content : String) : (a.write content).Tidy := by
  rw [Assembly.write]
  split
  · exact h
  · next shown =>
    have some : content ≠ "" := by simpa using shown
    split
    · next d s earlier e =>
      have before := h.siblings
      rw [e, Node.tidy_cons] at before
      obtain ⟨⟨-, apart⟩, -, later⟩ := before
      have longer : s ++ content ≠ "" := by simp [some]
      exact ⟨Node.tidy_text longer (fun m mem => (apart m mem).resolve_left (by simp [Node.text?]))
        later, h.around⟩
    · next other =>
      refine ⟨Node.tidy_text some (fun m mem => ?_) h.siblings, h.around⟩
      cases m with
      | element d name attributes cs => rfl
      | text d s =>
        obtain ⟨earlier, e⟩ := List.head?_eq_some_iff.mp mem
        exact absurd e (other d s earlier)

/-- The siblings at the innermost level become the children of an element that can have some. -/
theorem Tidy.leave (h : a.Tidy) : a.leave.Tidy := by
  rw [Assembly.leave]
  split
  · exact h
  · next o outer e =>
    have around := h.around
    rw [e, List.forall_mem_cons] at around
    obtain ⟨⟨solid, earlier⟩, outside⟩ := around
    exact ⟨Node.tidy_element (by simp [solid]) (Node.tidy_reverse h.siblings) earlier, outside⟩

/-- **What is read keeps a tree under way tidy.** -/
theorem tidy_invariant : Invariant Tidy where
  empty := ⟨Node.tidy_nil, by simp [empty]⟩
  leaf _ _ h := ⟨Node.tidy_element (fun _ => rfl) Node.tidy_nil h.siblings, h.around⟩
  enter _ solid h := ⟨Node.tidy_nil, List.forall_mem_cons.mpr ⟨⟨solid, h.siblings⟩, h.around⟩⟩
  write content h := h.write content
  leave := Tidy.leave

theorem tidy_ofReading {r : Reading} {top : List Node} (h : ofReading mode r = .ok top) :
    Node.Tidy top := by
  obtain ⟨a, tidy, -, rfl⟩ := tidy_invariant.finished h
  exact Node.tidy_reverse tidy.siblings

end Assembly

/-! ### Normal form -/

namespace Document

variable {top children : List Node}

/-- An element that is put around a row, and can have content. -/
theorem tidy_around {d : Nat} {name : String} (solid : isVoid name = false)
    (h : Node.Tidy children) : Node.Tidy [.element d name [] (children.map Node.deepen)] :=
  Node.tidy_element (by simp [solid]) (Node.tidy_deepen children h) Node.tidy_nil

theorem tidy_withBody (h : Node.Tidy children) : Node.Tidy (withBody children) := by
  have around : Node.Tidy [.element 1 "body" [] (children.map Node.deepen)] :=
    tidy_around (by decide) h
  rw [withBody]
  split
  · exact h
  · split
    · next before first rest e =>
      have parts : children = (before ++ [first]) ++ rest := by
        rw [List.span_eq_takeWhile_dropWhile, Prod.mk.injEq] at e
        rw [List.append_assoc, List.singleton_append, ← e.1, ← e.2, List.takeWhile_append_dropWhile]
      split
      · -- a head is followed by the body, which is no text
        rw [parts, Node.tidy_append] at h
        obtain ⟨early, late, -⟩ := h
        rw [List.append_cons, Node.tidy_append]
        refine ⟨early, tidy_around (by decide) late, fun n _ m mem => .inr ?_⟩
        cases mem
        rfl
      · exact around
    · exact around

/-- The only element of a row gets a body if it is an `html`. -/
theorem tidy_completed (h : Node.Tidy top) (html : ∀ n ∈ visible top, n.isNamed "html") :
    Node.Tidy (top.map completed) := by
  refine Node.tidy_map h (fun n => ?_) fun n mem sound inner => ?_
  · cases n with
    | element d name attributes cs => rfl
    | text d content => rfl
  · cases n with
    | element d name attributes cs =>
      obtain rfl : name = "html" := by
        simpa [Node.isNamed, Node.name?] using html _ (List.mem_filter.mpr ⟨mem, rfl⟩)
      exact ⟨Node.sound_element fun void => absurd void (by decide), tidy_withBody inner⟩
    | text d content => exact ⟨sound, inner⟩

theorem tidy_normalized (h : Node.Tidy top) : Node.Tidy (normalized top) := by
  have around : Node.Tidy [.element 0 "html" [] (withBody (top.map Node.deepen))] :=
    Node.tidy_element (fun void => absurd void (by decide))
      (tidy_withBody (Node.tidy_deepen top h)) Node.tidy_nil
  rw [normalized]
  split
  · exact h
  · next only alone =>
    split
    · next html => exact tidy_completed h (by simpa [alone] using html)
    · exact around
  · exact around

end Document

/-! ### Arenas -/

/-- A record that is no empty text, no text that links to a text as its next sibling, and no element
of a void name that links to a child. -/
structure Record.Tidy (records : List Record) (r : Record) : Prop where
  written : r.content ≠ .text ""
  apart (j : Nat) (next : Record) : r.nextSibling = some j → records[j]? = some next →
    ∀ s t, r.content = .text s → next.content ≠ .text t
  void (name : String) (attributes : List Attribute) : r.content = .element name attributes →
    isVoid name → r.firstChild = none

namespace Node

variable {n : Node}

theorem text?_of_content {s : String} (h : n.content = .text s) : n.text? = some s := by
  cases n with
  | element d name attributes cs => cases h
  | text d content =>
    cases h
    rfl

theorem name?_of_content {name : String} {attributes : List Attribute}
    (h : n.content = .element name attributes) : n.name? = some name := by
  cases n with
  | element d name attributes cs =>
    cases h
    rfl
  | text d content => cases h

end Node

namespace Spells

variable {records : List Record} {start stop : Option Nat} {ids : List Nat} {row : List Node}

/-- A link to the end leads over no tree. -/
theorem start_eq_of_nil (h : Spells records start stop ids []) : start = stop := by
  cases h
  rfl

/-- A link into a row leads to the record of its first tree. -/
theorem content_of_start {i : Nat} {r : Record} (h : Spells records start none ids row)
    (linked : start = some i) (here : records[i]? = some r) :
    ∃ n ∈ row.head?, r.content = n.content := by
  subst linked
  cases h with
  | cons here' content _ _ _ =>
    cases here'.symm.trans here
    exact ⟨_, rfl, content⟩

/-- **Where a tidy row is spelled, the records on the way are tidy.** -/
theorem tidy (h : Spells records start stop ids row) (last : stop = none) (tidy : Node.Tidy row) :
    ∀ i ∈ ids, ∀ r, records[i]? = some r → r.Tidy records := by
  induction h with
  | nil link => simp
  | @cons i r n stop below later rest here content depth inner next ihc ih =>
    obtain ⟨⟨sound, apart⟩, low, late⟩ := Node.tidy_cons.mp tidy
    refine List.forall_mem_cons.mpr ⟨fun r₀ here₀ => ?_,
      List.forall_mem_append.mpr ⟨ihc rfl low, ih last late⟩⟩
    cases here.symm.trans here₀
    refine ⟨fun empty => ?_, fun j r' linked there s s' text text' => ?_,
      fun name attributes element void => ?_⟩
    · exact sound.written (Node.text?_of_content (content.symm.trans empty))
    · -- the link leads to the node that comes next in the row
      subst last
      obtain ⟨m, first, content'⟩ := next.content_of_start linked there
      have here := Node.text?_of_content (content.symm.trans text)
      have there := Node.text?_of_content (content'.symm.trans text')
      simpa [Node.Apart, here, there] using apart m first
    · rw [sound.void name (Node.name?_of_content (content.symm.trans element)) void] at inner
      exact inner.start_eq_of_nil

end Spells

namespace Document

/-- **Texts are joined, and void elements are empty.** In a document that was read, no text is empty,
no two texts are next to each other, and no element of a void name has a child; and so it is with
the records of its arena and the links between them. -/
theorem tidy_of_read {source : String} {mode : Mode} {d : Document}
    (h : read source mode = .ok d) :
    Node.Tidy d.top ∧ ∃ arena ids, Arena.read source mode = .ok arena ∧ arena.Holds ids d.top ∧
      ∀ r ∈ arena.records, r.Tidy arena.records := by
  obtain ⟨top, assembled, rfl⟩ := ok_of_map h
  have tidy := tidy_normalized (Assembly.tidy_ofReading assembled)
  obtain ⟨arena, ids, reads, holds⟩ := Arena.holds_of_read h
  refine ⟨tidy, arena, ids, reads, holds, fun r mem => ?_⟩
  obtain ⟨i, bound, here⟩ := List.mem_iff_getElem.mp mem
  have met : i ∈ ids := holds.every.mem_iff.mpr (List.mem_range.mpr bound)
  exact holds.spells.tidy rfl tidy i met r (by rw [List.getElem?_eq_getElem bound, here])

/-- A text in four parts behind a line break that is closed twice, and an image that is closed
behind its content. -/
theorem tidy_of_read_parts :
    ∃ d, read "a<BR>b<![CDATA[c]]><!-- x --></p>d</br><?x?>e</br><img>f</img>" .lenient = .ok d ∧
      d.top = [.element 0 "html" [] [.element 1 "body" [] [.text 2 "a", .element 2 "br" [] [],
        .text 2 "bcde", .element 2 "img" [] [], .text 2 "f"]]] ∧
      Node.Tidy d.top := by
  have h : read "a<BR>b<![CDATA[c]]><!-- x --></p>d</br><?x?>e</br><img>f</img>" .lenient =
      .ok ⟨[.element 0 "html" [] [.element 1 "body" [] [.text 2 "a", .element 2 "br" [] [],
        .text 2 "bcde", .element 2 "img" [] [], .text 2 "f"]]]⟩ := by cbv
  exact ⟨_, h, rfl, (tidy_of_read h).1⟩

end Document

end Stencil
