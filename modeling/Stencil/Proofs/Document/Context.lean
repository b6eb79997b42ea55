import Stencil.Proofs.Arena.Lossless
import Stencil.Proofs.Document.Repair
import Stencil.Proofs.Markup.Concat

/-!
# Document — fragments in their context

A source that is read strictly is read to the same trees between the tags of an element, only one
level deeper (`Assembly.ofReading_around`). So a fragment is read as the same document whether its
`html` and its `body` are written or left out (`Document.fragment_reads_as_written`).
-/

namespace Stencil

open Markup

namespace Node

@[simp] theorem isBlank_deepen (n : Node) : n.deepen.isBlank = n.isBlank := by
  cases n with
  | element d name attributes cs => rw [deepen]; rfl
  | text d content => rw [deepen]; rfl

@[simp] theorem isNamed_deepen (n : Node) (name : String) :
    n.deepen.isNamed name = n.isNamed name := by
  cases n with
  | element d n attributes cs => rw [deepen]; rfl
  | text d content => rw [deepen]; rfl

end Node

/-! ### Events inside an open element -/

/-- An open element one level deeper, with the siblings before it. -/
def OpenElement.deepen (o : OpenElement) : OpenElement :=
  { o with earlier := o.earlier.map Node.deepen }

namespace Assembly

variable {a b : Assembly} {mode : Mode} {name : String} {attributes : List Attribute}
  {position : Nat} {said : Event} {events events' : List (Nat × Event)}

/-- A tree under way inside an open element. -/
def within (o : OpenElement) (a : Assembly) : Assembly :=
  ⟨a.siblings.map Node.deepen, a.enclosing.map OpenElement.deepen ++ [o]⟩

variable (o : OpenElement)

theorem depth_within (a : Assembly) : (a.within o).depth = a.depth + 1 := by
  simp [depth, within]

theorem leaf_within (a : Assembly) (name : String) (attributes : List Attribute) :
    (a.within o).leaf name attributes = (a.leaf name attributes).within o := by
  rw [leaf, depth_within]
  simp [leaf, within, Node.deepen]

theorem enter_within (a : Assembly) (name : String) (attributes : List Attribute) :
    (a.within o).enter name attributes = (a.enter name attributes).within o := rfl

theorem write_within (a : Assembly) (content : String) :
    (a.within o).write content = (a.write content).within o := by
  rw [write, write, depth_within]
  split
  · rfl
  · cases e : a.siblings with
    | nil => simp [within, e, Node.deepen]
    | cons n earlier =>
      cases n with
      | element d name attributes cs => simp [within, e, Node.deepen]
      | text d s => simp [within, e, Node.deepen]

theorem leave_within {innermost : OpenElement} {outer : List OpenElement}
    (h : a.enclosing = innermost :: outer) : (a.within o).leave = a.leave.within o := by
  simp [leave, within, h, OpenElement.deepen, Node.deepen]

/-- **What is taken strictly is taken inside an open element too**, in both ways of reading and
wherever it stands. -/
theorem step_within (mode : Mode) (position' : Nat) (h : step .strict a (position, said) = .ok b) :
    step mode (a.within o) (position', said) = .ok (b.within o) := by
  cases said with
  | start name attributes =>
    cases h
    rw [step, leaf_within, enter_within, apply_ite (within o)]
  | selfClosed name attributes =>
    cases h
    rw [step, leaf_within]
  | finish name =>
    rw [step]
    by_cases void : isVoid name
    · rw [step, close_of_void void] at h
      cases h
      exact close_of_void void mode _
    · have solid : isVoid name = false := by simpa using void
      rcases step_strict_of_closing solid a position with ⟨b', -, fewer⟩ | ⟨e, refused, -⟩
      · -- the end tag closes the innermost open element, which is not the one around
        obtain ⟨innermost, outer, enclosing, same, -⟩ := List.map_eq_cons_iff.mp fewer
        rw [step, close_of_innermost solid enclosing same] at h
        cases h
        have inside : (a.within o).enclosing =
            innermost.deepen :: (outer.map OpenElement.deepen ++ [o]) := by
          simp [within, enclosing]
        rw [← leave_within o enclosing]
        exact close_of_innermost solid inside same mode
      · cases h.symm.trans refused
  | text content =>
    cases h
    rw [step, write_within]

/-- Rows of events that say the same, the one at the top and the other one inside an element. -/
theorem foldlM_within (mode : Mode) (same : events'.map (·.2) = events.map (·.2))
    (h : events.foldlM (step .strict) a = .ok b) :
    events'.foldlM (step mode) (a.within o) = .ok (b.within o) := by
  induction events generalizing a events' with
  | nil =>
    cases h
    rw [List.map_nil, List.map_eq_nil_iff] at same
    rw [same]
    rfl
  | cons event rest ih =>
    obtain ⟨⟨position', said⟩, rest', rfl, rfl, behind⟩ := List.map_eq_cons_iff.mp same
    rw [List.foldlM_cons] at h ⊢
    obtain ⟨next, first, later⟩ := ok_of_bind h
    rw [step_within o mode position' first, ok_bind]
    exact ih behind later

/-- A tree that is finished strictly has no open elements. -/
theorem of_finish_strict {top : List Node} (h : b.finish .strict = .ok top) :
    b.enclosing = [] ∧ b.siblings.reverse = top := by
  unfold finish at h
  cases enclosing : b.enclosing with
  | nil =>
    rw [enclosing] at h
    cases h
    exact ⟨rfl, rfl⟩
  | cons innermost outer =>
    rw [enclosing] at h
    cases h

/-- **What is read strictly is read between the tags of an element to the children of the
element**, in both ways of reading. -/
theorem ofReading_around {top : List Node} (solid : isVoid name = false) (mode : Mode)
    (same : events'.map (·.2) =
      .start name attributes :: (events.map (·.2) ++ [.finish name]))
    (h : ofReading .strict ⟨events, none⟩ = .ok top) :
    ofReading mode ⟨events', none⟩ = .ok [.element 0 name attributes (top.map Node.deepen)] := by
  obtain ⟨b, run, finished⟩ := ok_of_bind h
  obtain ⟨closed, rfl⟩ := of_finish_strict finished
  -- the events between the tags stand at other positions
  obtain ⟨⟨start, said⟩, rest, rfl, rfl, behind⟩ := List.map_eq_cons_iff.mp same
  obtain ⟨inner, last, rfl, between, last_eq⟩ := List.map_eq_append_iff.mp behind
  obtain ⟨⟨stop, said⟩, nothing, rfl, rfl, nothing_eq⟩ := List.map_eq_cons_iff.mp last_eq
  rw [List.map_eq_nil_iff] at nothing_eq
  let o : OpenElement := ⟨name, attributes, []⟩
  have opens : step mode empty (start, .start name attributes) = .ok (empty.within o) := by
    rw [step, if_neg (by simp [solid])]
    rfl
  have around : (b.within o).enclosing = [o] := by simp [within, closed]
  have closes : step mode (b.within o) (stop, .finish name) = .ok (b.within o).leave :=
    close_of_innermost solid around rfl mode
  rw [ofReading_of_sound rfl, nothing_eq, List.foldlM_cons, opens, ok_bind, List.foldlM_append,
    foldlM_within o mode between run, ok_bind, List.foldlM_cons, closes, ok_bind]
  have whole : (b.within o).leave =
      ⟨[.element 0 name attributes (b.siblings.reverse.map Node.deepen)], []⟩ := by
    rw [leave, around]
    simp [within, o]
  rw [whole]
  cases mode with
  | lenient => rfl
  | strict => rfl

end Assembly

/-! ### Sources between tags -/

/-- A text that is read to its end, and to these trees. -/
structure Reads (mode : Mode) (s : List Char) (top : List Node) : Prop where
  sound : (Pieces.ofSource s).fault = none
  trees : Assembly.ofReading mode ⟨eventsFrom 0 (Pieces.ofSource s).pieces, none⟩ = .ok top

variable {mode : Mode} {top : List Node}

/-- A source that is accepted is read to its end. -/
theorem ofReading_ofSource {source : String} :
    Assembly.ofReading mode (.ofSource source) = .ok top ↔
      Reads mode (dropMark source.toList) top := by
  cases fault : (Pieces.ofSource (dropMark source.toList)).fault with
  | none =>
    have reading : Reading.ofSource source =
        ⟨eventsFrom 0 (Pieces.ofSource (dropMark source.toList)).pieces, none⟩ := by
      rw [Reading.ofSource, fault]
      rfl
    rw [reading]
    exact ⟨fun accepted => ⟨fault, accepted⟩, fun reads => reads.trees⟩
  | some f =>
    refine ⟨fun accepted => ?_, fun reads => absurd (fault.symm.trans reads.sound) (by simp)⟩
    obtain ⟨a, -, last⟩ := ok_of_bind accepted
    rw [Reading.ofSource, fault] at last
    cases last

/-- What is read strictly is read between two tags to the children of an element. -/
theorem Reads.around {s opening closing : List Char} {p q : Piece} {name : String}
    {attributes : List Attribute} (h : Reads .strict s top)
    (opens : markup? opening = .ok (p, [])) (starts : p.event? = some (.start name attributes))
    (closes : markup? closing = .ok (q, [])) (ends : q.event? = some (.finish name))
    (solid : isVoid name = false) (mode : Mode) :
    Reads mode ('<' :: opening ++ (s ++ '<' :: closing))
      [.element 0 name attributes (top.map Node.deepen)] := by
  have whole := Pieces.ofSource_around opens closes h.sound
  refine ⟨by rw [whole], Assembly.ofReading_around solid mode ?_ h.trees⟩
  rw [whole, map_snd_eventsFrom, map_snd_eventsFrom, List.filterMap_cons_some starts,
    List.filterMap_append, List.filterMap_cons_some ends, List.filterMap_nil]

theorem dropMark_of_head? {s : List Char} (h : s.head? ≠ some '\ufeff') : dropMark s = s := by
  unfold dropMark
  split
  · exact absurd rfl h
  · rfl

/-- Trees in an `html` and a `body`. -/
def written (top : List Node) : List Node :=
  [.element 0 "html" [] [.element 1 "body" [] ((top.map Node.deepen).map Node.deepen)]]

/-- A source between the tags of an `html` and a `body`. -/
theorem ofReading_written {s : String} (noMark : s.toList.head? ≠ some '\ufeff')
    (accepted : Assembly.ofReading .strict (.ofSource s) = .ok top) (mode : Mode) :
    Assembly.ofReading mode (.ofSource ("<html><body>" ++ s ++ "</body></html>")) =
      .ok (written top) := by
  have reads : Reads .strict s.toList top := by
    rw [← dropMark_of_head? noMark]
    exact ofReading_ofSource.mp accepted
  have body : Reads .strict
      ('<' :: ['b', 'o', 'd', 'y', '>'] ++ (s.toList ++ '<' :: ['/', 'b', 'o', 'd', 'y', '>']))
      [.element 0 "body" [] (top.map Node.deepen)] :=
    reads.around rfl (by cbv) rfl (by cbv) rfl .strict
  have html : Reads mode ('<' :: ['h', 't', 'm', 'l', '>'] ++
      ('<' :: ['b', 'o', 'd', 'y', '>'] ++ (s.toList ++ '<' :: ['/', 'b', 'o', 'd', 'y', '>']) ++
        '<' :: ['/', 'h', 't', 'm', 'l', '>']))
      [.element 0 "html" [] ([.element 0 "body" [] (top.map Node.deepen)].map Node.deepen)] :=
    body.around rfl (by cbv) rfl (by cbv) rfl mode
  rw [List.map_singleton, Node.deepen] at html
  rw [ofReading_ofSource, written]
  convert html using 1
  simp [dropMark]

/-! ### Fragments -/

namespace Document

/-- A row of trees that gets its `html` and its `body` from the normal form, with nothing left
outside of the `body`. -/
structure IsFragment (top : List Node) : Prop where
  shown : visible top ≠ []
  noBody : ∀ n ∈ visible top, ¬n.isNamed "body"
  noHead : ∀ n ∈ (visible top).head?, ¬n.isNamed "head"
  noHtml : ∀ n, visible top = [n] → ¬n.isNamed "html"

theorem visible_deepen (row : List Node) :
    visible (row.map Node.deepen) = (visible row).map Node.deepen := by
  rw [visible, visible, List.filter_map]
  congr 2
  funext n
  exact congrArg (!·) n.isBlank_deepen

theorem normalized_of_fragment (h : IsFragment top) : normalized top = written top := by
  obtain ⟨n, more, first⟩ := List.exists_cons_of_ne_nil h.shown
  obtain ⟨early, late, rfl, blank, shown, rfl⟩ := List.filter_eq_cons_iff.mp first
  replace blank : ∀ m ∈ early, m.isBlank := by simpa using blank
  replace shown : n.isBlank = false := by simpa using shown
  -- the `body` is put around the trees when they are in the `html` already
  have blank' : ∀ m ∈ early.map Node.deepen, m.isBlank := by simpa using blank
  have shown' : n.deepen.isBlank = false := by simpa using shown
  have noBody : ¬(visible ((early ++ n :: late).map Node.deepen)).any (·.isNamed "body") := by
    rw [visible_deepen]
    simpa using h.noBody
  have noHead : ¬n.deepen.isNamed "head" := by
    rw [Node.isNamed_deepen]
    exact h.noHead n (by rw [first]; rfl)
  rw [normalized_of_other blank shown fun alone => h.noHtml n (by rw [first, ← alone]; rfl),
    written]
  rw [List.map_append, List.map_cons] at noBody ⊢
  rw [withBody_of_other blank' shown' noBody noHead]

/-- What is written in full is in normal form. -/
theorem normalized_written (top : List Node) : normalized (written top) = written top := rfl

/-- **A fragment reads the same as its fully written form**, in both ways of reading: as one
document, with its blank texts, attributes and recorded depths, which lies in the arenas of both. -/
theorem fragment_reads_as_written {s : String} (noMark : s.toList.head? ≠ some '\ufeff')
    (accepted : Assembly.ofReading .strict (.ofSource s) = .ok top) (fragment : IsFragment top)
    (mode : Mode) :
    ∃ d, read s mode = .ok d ∧ read ("<html><body>" ++ s ++ "</body></html>") mode = .ok d ∧
      ∃ bare full ids ids', Arena.read s mode = .ok bare ∧ bare.Holds ids d.top ∧
        Arena.read ("<html><body>" ++ s ++ "</body></html>") mode = .ok full ∧
        full.Holds ids' d.top := by
  have here : read s mode = .ok ⟨written top⟩ := by
    rw [read, Assembly.ofReading_of_strict accepted mode, Except.map, normalized_of_fragment fragment]
  have there : read ("<html><body>" ++ s ++ "</body></html>") mode = .ok ⟨written top⟩ := by
    rw [read, ofReading_written noMark accepted mode, Except.map, normalized_written]
  obtain ⟨bare, ids, reads, holds⟩ := Arena.holds_of_read here
  obtain ⟨full, ids', reads', holds'⟩ := Arena.holds_of_read there
  exact ⟨⟨written top⟩, here, there, bare, full, ids, ids', reads, holds, reads', holds'⟩

/-- A paragraph behind a blank text. -/
theorem fragment_reads_as_written_paragraph :
    ∃ d, read " <p id='a'>x</p>" .lenient = .ok d ∧
      read ("<html><body>" ++ " <p id='a'>x</p>" ++ "</body></html>") .lenient = .ok d := by
  have noMark : " <p id='a'>x</p>".toList.head? ≠ some '\ufeff' := by decide
  let p : Node := .element 0 "p" [("id", "a")] [.text 1 "x"]
  have accepted : Assembly.ofReading .strict (.ofSource " <p id='a'>x</p>") =
      .ok [.text 0 " ", p] := by cbv
  have fragment : IsFragment [.text 0 " ", p] := by
    have shown : visible [.text 0 " ", p] = [p] := rfl
    have other : ∀ name, p.isNamed name = ("p" == name) := fun _ => rfl
    exact ⟨by simp [shown], by simp [shown, other], by simp [shown, other], by simp [shown, other]⟩
  obtain ⟨d, here, there, -⟩ := fragment_reads_as_written noMark accepted fragment .lenient
  exact ⟨d, here, there⟩

end Document

end Stencil
