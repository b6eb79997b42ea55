import Stencil.Proofs.Document.Context
import Stencil.Proofs.Document.Nesting
import Stencil.Proofs.Document.Normal
import Stencil.Proofs.Template.Markup

/-!
# Template — reserved elements

The reserved elements of a document, in document order, each with what is around it. They are told
by the tags of its source alone (`Template.placements_of_read`): the normal form puts an `html` and
a `body` around them, but neither moves them nor takes them out of another reserved element.
-/

namespace Stencil

open Markup Template

namespace Template

/-- A reserved element with its attributes, and the names of the elements around it, the innermost
first. -/
structure Placement where
  around : List String
  marker : Marker
  attributes : List Attribute

variable {around around' : List String} {name : String}

/-- The reserved elements among elements of these names. -/
def reserved (names : List String) : List Marker := names.filterMap Marker.ofName?

/-- The reserved elements among those around a place, and the one that is directly around it. -/
def view (around : List String) : List Marker × Option Marker :=
  (reserved around, around.head?.bind Marker.ofName?)

/-- A reserved element, and what is reserved around it. -/
def Placement.view (pl : Placement) : (List Marker × Option Marker) × Marker × List Attribute :=
  (Template.view pl.around, pl.marker, pl.attributes)

/-- What an element of a name puts in the place where it stands: nothing if the name is not
reserved. -/
def placedAt (around : List String) (name : String) (attributes : List Attribute) :
    List Placement :=
  (Marker.ofName? name).toList.map (⟨around, ·, attributes⟩)

theorem placedAt_of_none (h : Marker.ofName? name = none) (attributes : List Attribute) :
    placedAt around name attributes = [] := by rw [placedAt, h]; rfl

theorem view_placedAt (same : view around = view around') (attributes : List Attribute) :
    (placedAt around name attributes).map (·.view) =
      (placedAt around' name attributes).map (·.view) := by
  rw [placedAt, placedAt, List.map_map, List.map_map]
  exact List.map_congr_left fun m _ => by rw [Function.comp, Function.comp, Placement.view,
    Placement.view, same]

theorem view_cons (same : view around = view around') (name : String) :
    view (name :: around) = view (name :: around') := by
  have inner : reserved around = reserved around' := congrArg Prod.fst same
  rw [view, view, reserved, reserved, List.filterMap_cons, List.filterMap_cons, ← reserved,
    ← reserved, inner]
  rfl

/-- What is reserved is still so inside another element, if no reserved element is directly around
that one. -/
theorem view_plain (h : Marker.ofName? name = none)
    (apart : around.head?.bind Marker.ofName? = none) :
    view (name :: around) = view around := by
  rw [view, view, reserved, List.filterMap_cons_none h, apart]
  exact congrArg _ h

end Template

/-! ### Trees -/

namespace Node

variable {around around' : List String}

/-- The reserved elements of a row of nodes, in document order. -/
def placements (around : List String) : List Node → List Placement
  | [] => []
  | .element _ name attributes cs :: rest =>
    placedAt around name attributes ++ placements (name :: around) cs ++ placements around rest
  | .text _ _ :: rest => placements around rest

/-- What is reserved in a row, and around it. -/
def views (around : List String) (row : List Node) :
    List ((List Marker × Option Marker) × Marker × List Attribute) :=
  (placements around row).map (·.view)

theorem placements_append (row row' : List Node) :
    placements around (row ++ row') = placements around row ++ placements around row' := by
  induction row with
  | nil => rw [placements]; rfl
  | cons n rest ih =>
    cases n with
    | element d name attributes cs =>
      simp only [List.cons_append, placements, ih, List.append_assoc]
    | text d content => simp only [List.cons_append, placements, ih]

theorem views_append (row row' : List Node) :
    views around (row ++ row') = views around row ++ views around row' := by
  rw [views, placements_append, List.map_append]
  rfl

theorem views_element (d : Nat) (name : String) (attributes : List Attribute)
    (cs rest : List Node) :
    views around (.element d name attributes cs :: rest) =
      (placedAt around name attributes).map (·.view) ++ views (name :: around) cs ++
        views around rest := by
  rw [views, placements, List.map_append, List.map_append]
  rfl

theorem views_text (d : Nat) (content : String) (rest : List Node) :
    views around (.text d content :: rest) = views around rest := by
  rw [views, placements]
  rfl

@[simp] theorem views_nil : views around [] = [] := by
  rw [views, placements]
  rfl

/-- Of what is around a row, only what is reserved shows. -/
theorem views_congr (row : List Node) : ∀ {around around' : List String},
    view around = view around' → views around row = views around' row := by
  induction row using row_induction with
  | nil => exact fun _ => by rw [views_nil, views_nil]
  | cons n rest ihc ih =>
    intro around around' same
    cases n with
    | element d name attributes cs =>
      rw [views_element, views_element, view_placedAt same, ih same]
      exact congrArg (_ ++ · ++ _) (ihc (view_cons same name))
    | text d content => rw [views_text, views_text, ih same]

/-- An element without a reserved name counts for what is in it, if no reserved element is directly
around it. -/
theorem views_plain {d : Nat} {name : String} {attributes : List Attribute}
    (h : Marker.ofName? name = none) (apart : around.head?.bind Marker.ofName? = none)
    (cs rest : List Node) :
    views around (.element d name attributes cs :: rest) =
      views around cs ++ views around rest := by
  rw [views_element, placedAt_of_none h, List.map_nil, List.nil_append,
    views_congr cs (view_plain h apart)]

theorem placements_deepen (row : List Node) :
    ∀ around, placements around (row.map deepen) = placements around row := by
  induction row using row_induction with
  | nil => exact fun _ => rfl
  | cons n rest ihc ih =>
    intro around
    cases n with
    | element d name attributes cs =>
      have inner : ∀ around, placements around (cs.map deepen) = placements around cs := ihc
      rw [List.map_cons, deepen, placements, placements, inner, ih]
    | text d content => rw [List.map_cons, deepen, placements, placements, ih]

theorem views_deepen (row : List Node) : views around (row.map deepen) = views around row := by
  rw [views, placements_deepen]
  rfl

end Node

namespace Document

variable {around : List String}

open Node (views views_nil views_append views_plain views_text views_deepen)

theorem views_withBody (apart : around.head?.bind Marker.ofName? = none) (children : List Node) :
    views around (withBody children) = views around children := by
  have body : Marker.ofName? "body" = none := by decide
  have whole : ∀ row, views around [.element 1 "body" [] (row.map Node.deepen)] =
      views around row := by
    intro row
    rw [views_plain body apart, views_deepen, views_nil, List.append_nil]
  rw [withBody]
  split
  · rfl
  · split
    · next before first rest e =>
      -- a `head` stays in front of the `body` that is put around the rest
      have parts : children = before ++ [first] ++ rest := by
        rw [List.span_eq_takeWhile_dropWhile, Prod.mk.injEq] at e
        rw [List.append_assoc, List.singleton_append, ← e.1, ← e.2, List.takeWhile_append_dropWhile]
      split
      · rw [List.append_cons, views_append, whole, ← views_append, ← parts]
      · exact whole children
    · exact whole children

/-- The normal form puts nothing around reserved elements that is reserved itself. -/
theorem views_normalized (top : List Node) : views [] (normalized top) = views [] top := by
  have html : Marker.ofName? "html" = none := by decide
  cases shown : visible top with
  | nil => rw [normalized_of_blank shown]
  | cons n more =>
    obtain ⟨early, late, rfl, blank, visible', rfl⟩ := List.filter_eq_cons_iff.mp shown
    replace blank : ∀ m ∈ early, m.isBlank := by simpa using blank
    replace visible' : n.isBlank = false := by simpa using visible'
    by_cases alone : visible late = [] ∧ n.isNamed "html"
    · rw [normalized_of_html blank visible' alone.1 alone.2, views_append, views_append]
      cases n with
      | element d name attributes cs =>
        obtain rfl : name = "html" := by simpa [Node.isNamed, Node.name?] using alone.2
        rw [completed, views_plain html rfl, views_plain html rfl, views_withBody rfl]
      | text d content => rw [completed]
    · rw [normalized_of_other blank visible' fun last named => alone ⟨last, named⟩,
        views_plain html rfl, views_withBody rfl, views_deepen, views_nil, List.append_nil]

end Document

/-! ### Tags -/

namespace Markup.Event

/-- The reserved elements that an event puts into a document, inside elements of these names. -/
def placed (around : List String) : Event → List Placement
  | start name attributes | selfClosed name attributes => placedAt around name attributes
  | finish _ | text _ => []

/-- The names of the elements around what stands behind an event. -/
def behind (around : List String) : Event → List String
  | start name _ => if isVoid name then around else name :: around
  | finish name => if isVoid name then around else around.tail
  | selfClosed _ _ | text _ => around

end Markup.Event

namespace Template

/-- The reserved elements that a row of events puts into a document. -/
def placements (around : List String) : List Event → List Placement
  | [] => []
  | e :: rest => e.placed around ++ placements (e.behind around) rest

/-- The names of the elements around what stands behind a row of events. -/
def enclosing (around : List String) (events : List Event) : List String :=
  events.foldl Event.behind around

theorem placements_append (around : List String) (events later : List Event) :
    placements around (events ++ later) =
      placements around events ++ placements (enclosing around events) later := by
  induction events generalizing around with
  | nil => rfl
  | cons e rest ih =>
    rw [List.cons_append, placements, placements, ih, List.append_assoc]
    rfl

/-- The tags of a row of events, as brackets. -/
def tags (events : List Event) : List (Bracket String) := events.filterMap Event.bracket?

theorem tags_append (events later : List Event) :
    tags (events ++ later) = tags events ++ tags later := List.filterMap_append ..

theorem brackets_eq_tags (events : List (Nat × Event)) :
    Stencil.brackets events = tags (events.map (·.2)) := by
  rw [tags, List.filterMap_map]
  rfl

end Template

/-! ### Trees under way -/

namespace Assembly

variable {a b : Assembly} {event : Nat × Event} {events : List (Nat × Event)}

/-- The reserved elements among the open elements and before them. -/
def placedAround : List OpenElement → List Placement
  | [] => []
  | o :: outer =>
    placedAround outer ++ Node.placements (outer.map (·.name)) o.earlier.reverse ++
      placedAt (outer.map (·.name)) o.name o.attributes

/-- The reserved elements of a tree under way, in document order. -/
def placed (a : Assembly) : List Placement :=
  placedAround a.enclosing ++ Node.placements a.openNames a.siblings.reverse

theorem placed_leaf (a : Assembly) (name : String) (attributes : List Attribute) :
    (a.leaf name attributes).placed = a.placed ++ placedAt a.openNames name attributes := by
  rw [placed, placed, leaf, List.reverse_cons, Node.placements_append, ← List.append_assoc,
    Node.placements, Node.placements, Node.placements, List.append_nil, List.append_nil]
  rfl

theorem placed_enter (a : Assembly) (name : String) (attributes : List Attribute) :
    (a.enter name attributes).placed = a.placed ++ placedAt a.openNames name attributes := by
  rw [placed, enter, List.reverse_nil, Node.placements, List.append_nil]
  rfl

theorem placed_write (a : Assembly) (content : String) : (a.write content).placed = a.placed := by
  rw [write]
  split
  · rfl
  · split
    · next d s earlier e =>
      simp only [placed, e, List.reverse_cons, Node.placements_append, Node.placements]
      rfl
    · simp only [placed, List.reverse_cons, Node.placements_append, Node.placements,
        List.append_nil]
      rfl

/-- An element that is closed has been counted where it was opened. -/
theorem placed_leave (a : Assembly) : a.leave.placed = a.placed := by
  rw [leave]
  split
  · rfl
  · next o outer e =>
    simp only [placed, openNames, e, placedAround, List.map_cons, List.reverse_cons,
      Node.placements_append, Node.placements, List.append_nil, List.append_assoc]

/-- What is read strictly adds the reserved elements that it puts in place. -/
theorem placed_step (h : step .strict a event = .ok b) :
    b.placed = a.placed ++ event.2.placed a.openNames ∧
      b.openNames = event.2.behind a.openNames := by
  obtain ⟨position, event⟩ := event
  cases event with
  | start name attributes =>
    cases h
    rw [Event.behind]
    split
    · exact ⟨a.placed_leaf name attributes, rfl⟩
    · exact ⟨a.placed_enter name attributes, rfl⟩
  | selfClosed name attributes =>
    cases h
    exact ⟨a.placed_leaf name attributes, rfl⟩
  | finish name =>
    rw [Event.placed, List.append_nil, Event.behind]
    by_cases void : isVoid name
    · rw [step, close_of_void void] at h
      cases h
      exact ⟨rfl, (if_pos void).symm⟩
    · -- an end tag is read if its element is the innermost one that is open
      have solid : isVoid name = false := by simpa using void
      rw [if_neg void]
      rcases step_strict_of_closing solid a position with ⟨b', closed, names⟩ | ⟨e, refused, -⟩
      · cases h.symm.trans closed
        obtain ⟨innermost, outer, enclosing, same, -⟩ := List.map_eq_cons_iff.mp names
        rw [step, close_of_innermost solid enclosing same] at h
        exact ⟨Except.ok.inj h ▸ a.placed_leave, by rw [names, List.tail_cons]⟩
      · cases h.symm.trans refused
  | text content =>
    cases h
    exact ⟨by rw [placed_write, Event.placed, List.append_nil], a.openNames_write content⟩

theorem placed_foldlM (h : events.foldlM (step .strict) a = .ok b) :
    b.placed = a.placed ++ placements a.openNames (events.map (·.2)) := by
  induction events generalizing a with
  | nil =>
    cases h
    exact (List.append_nil _).symm
  | cons event rest ih =>
    rw [List.foldlM_cons] at h
    obtain ⟨next, first, later⟩ := ok_of_bind h
    obtain ⟨here, inside⟩ := placed_step first
    rw [ih later, here, inside, List.append_assoc]
    rfl

end Assembly

/-- **The reserved elements of a document are those of its tags**, which are nested well, each
inside of those elements that are open where its tag stands. -/
theorem Template.placements_of_read {source : String} {d : Document}
    (h : Document.read source .strict = .ok d) :
    Node.views [] d.top =
        (placements [] (said (dropMark source.toList))).map (·.view) ∧
      (Pieces.ofSource (dropMark source.toList)).fault = none ∧
      Bracket.WellNested (tags (said (dropMark source.toList))) := by
  obtain ⟨top, assembled, rfl⟩ := ok_of_map h
  obtain ⟨sound, trees⟩ := ofReading_ofSource.mp assembled
  have events := map_snd_eventsFrom 0 (Pieces.ofSource (dropMark source.toList)).pieces
  refine ⟨?_, sound, ?_⟩
  · obtain ⟨b, run, finished⟩ := ok_of_bind trees
    obtain ⟨closed, rfl⟩ := Assembly.of_finish_strict finished
    have placed := Assembly.placed_foldlM run
    rw [events] at placed
    rw [Document.views_normalized, Node.views]
    refine congrArg (List.map Placement.view) ?_
    simpa [Assembly.placed, Assembly.openNames, closed, Assembly.placedAround, Assembly.empty,
      Node.placements, said] using placed
  · rcases Assembly.ofReading_strict_cases (r := ⟨_, none⟩) rfl with ⟨-, nested⟩ | ⟨e, refused, -⟩
    · rw [brackets_eq_tags, events] at nested
      exact nested
    · cases trees.symm.trans refused

end Stencil
