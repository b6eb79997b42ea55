import Mathlib
import Stencil.Document.Read
import Stencil.Proofs.Arena.Build
import Stencil.Proofs.Arena.Normal

/-!
# Arena — nothing is lost

A document that is read lies in an arena whose links meet every record once, in document order, and
the records tell what the events of the source told, in their order (`Arena.reading_keeps_all`). No
row of events makes an arena go wrong: there is no index out of bounds, and no way without an end.
-/

namespace Stencil

open Markup

/-! ### Marks -/

/-- What a reader goes by: an element with its attributes, or a character of a text. -/
inductive Mark where
  | element (name : String) (attributes : List Attribute)
  | char (c : Char)
  deriving DecidableEq, Repr

/-- The marks of a text. -/
def Mark.ofText (s : String) : List Mark := s.toList.map .char

/-- The marks of a node, without those of its children. -/
def Content.marks : Content → List Mark
  | element name attributes => [.element name attributes]
  | text s => Mark.ofText s

/-- The marks of an event. An end tag has none. -/
def Markup.Event.marks : Event → List Mark
  | start name attributes | selfClosed name attributes => [.element name attributes]
  | finish _ => []
  | text s => Mark.ofText s

theorem Mark.ofText_append (s t : String) : ofText (s ++ t) = ofText s ++ ofText t := by
  rw [ofText, String.toList_append, List.map_append, ofText, ofText]

/-- The marks of a table, in its order. -/
def marksOf (records : List Record) : List Mark := records.flatMap (·.content.marks)

theorem marksOf_eq (records : List Record) :
    marksOf records = (records.map (·.content)).flatMap Content.marks := by
  rw [marksOf, List.flatMap_map]

/-- The marks of the record at an index. -/
def marksAt (records : List Record) (i : Nat) : List Mark :=
  match records[i]? with
  | some r => r.content.marks
  | none => []

namespace Assembly

open Node

variable {a b : Assembly} {mode : Mode} {event : Nat × Event}

theorem map_content_around (filled filled' : Bool) (enclosing : List OpenElement) :
    (around filled enclosing).map (·.content) = (around filled' enclosing).map (·.content) := by
  cases enclosing with
  | nil => rfl
  | cons o outer => simp [around]

theorem map_content_linked (a : Assembly) :
    a.linked.map (·.content) = a.records.map (·.content) := by
  rw [linked, records, List.map_append, List.map_append, map_content_layout, map_content_layout,
    map_content_around true]

theorem marksOf_linked (a : Assembly) (r : Record) :
    marksOf (a.linked ++ [r]) = marksOf a.records ++ r.content.marks := by
  rw [marksOf_eq, List.map_append, map_content_linked, List.flatMap_append, ← marksOf_eq]
  simp

theorem marksOf_push {n : Node} (childless : n.children = []) (a : Assembly) :
    marksOf (a.push n).records = marksOf a.records ++ n.content.marks := by
  rw [records_push childless, marksOf_linked]

theorem marksOf_enter (a : Assembly) (name : String) (attributes : List Attribute) :
    marksOf (a.enter name attributes).records = marksOf a.records ++ [.element name attributes] := by
  rw [records_enter, marksOf_linked]
  rfl

/-- A text that goes on with another one tells the same as a text of its own. -/
theorem marksOf_write (a : Assembly) (content : String) :
    marksOf (a.write content).records = marksOf a.records ++ Mark.ofText content := by
  rw [write]
  split
  · next empty =>
    have none : content = "" := by simpa using empty
    simp [none, Mark.ofText]
  · split
    · next d s earlier e =>
      obtain ⟨before, -, split⟩ := around_layout_cons a.enclosing earlier
      have now : a.records = _ := (records_of_cons e).trans (split _ none)
      have grown : (Assembly.mk (.text d (s ++ content) :: earlier) a.enclosing).records = _ :=
        (records_of_cons rfl).trans (split (.text d (s ++ content)) none)
      rw [now, grown]
      simp [marksOf, Node.content, Node.children, Content.marks, Mark.ofText_append]
    · exact marksOf_push (n := .text a.depth content) rfl a

/-- An event is told. -/
theorem marksOf_step (h : step mode a event = .ok b) :
    marksOf b.records = marksOf a.records ++ event.2.marks := by
  obtain ⟨position, event⟩ := event
  cases event with
  | start name attributes =>
    cases h
    split
    · exact marksOf_push (n := .element a.depth name attributes []) rfl a
    · exact marksOf_enter a name attributes
  | selfClosed name attributes =>
    cases h
    exact marksOf_push (n := .element a.depth name attributes []) rfl a
  | finish name =>
    obtain ⟨n, rfl⟩ := close_eq_leaveAll h
    rw [records_leaveAll]
    exact (List.append_nil _).symm
  | text content =>
    cases h
    exact marksOf_write a content

theorem marksOf_run (events : List (Nat × Event)) : ∀ a : Assembly,
    events.foldlM (step mode) a = .ok b →
      marksOf b.records = marksOf a.records ++ events.flatMap (·.2.marks) := by
  induction events with
  | nil =>
    intro a h
    cases h
    simp
  | cons event rest ih =>
    intro a h
    rw [List.foldlM_cons] at h
    obtain ⟨c, taken, run⟩ := ok_of_bind h
    rw [ih c run, marksOf_step taken, List.append_assoc, List.flatMap_cons]

/-- The layout of a tree that is read tells what the events tell. -/
theorem marksOf_ofReading {r : Reading} {top : List Node} (h : ofReading mode r = .ok top) :
    marksOf (Arena.ofRow top).records = r.events.flatMap (·.2.marks) := by
  obtain ⟨a, run, last⟩ := ok_of_bind h
  have told := marksOf_run _ _ run
  split at last
  · cases last
  · have here : Arena.ofRow top = a.builder.toArena := by
      rw [toArena_builder]
      unfold finish at last
      split at last
      · cases last
      · cases last
        rfl
    have nothing : marksOf empty.records = [] := by simp [records, empty, around, marksOf]
    rw [here, ← List.nil_append (List.flatMap _ _), ← nothing]
    exact told

end Assembly

/-! ### Readings -/

namespace Arena

/-- A row that lies in an arena of its own is what the arena holds, in the order of its records. -/
theorem holds_ofRow (row : List Node) : (ofRow row).Holds (List.range (Node.count row)) row := by
  have spells : Spells (ofRow row).records (link 0 none row) none
      (List.range' 0 (Node.count row)) row :=
    spells_layout row 0 none [] [] rfl (by simp [ofRow])
  rw [List.range_eq_range']
  refine ⟨spells, ?_⟩
  rw [List.range_eq_range', ofRow, Node.length_layout]

/-- The marks of the first records, one after the other. -/
theorem flatMap_marksAt {records records' : List Record} {added : List Content}
    (h : records'.map (·.content) = records.map (·.content) ++ added) :
    (List.range records.length).flatMap (marksAt records') = marksOf records := by
  rw [marksOf, List.flatMap_def, List.flatMap_def]
  refine congrArg List.flatten (List.ext_getElem (by simp) fun i bound _ => ?_)
  have lies : i < records.length := by simpa using bound
  have same : records'[i]?.map (·.content) = some records[i].content := by
    rw [← List.getElem?_map, h, List.getElem?_append_left (by simpa using lies)]
    simp [lies]
  obtain ⟨r, here, content⟩ := Option.map_eq_some_iff.mp same
  rw [List.getElem_map, List.getElem_range, List.getElem_map, marksAt, here, ← content]

/-- A reading, as it lies in the arena that is built and in the same arena in normal form, where the
links lead over these records in document order. -/
structure Keeps (mode : Mode) (r : Reading) (top : List Node) (built arena : Arena)
    (ids : List Nat) : Prop where
  run : build mode r = .ok built
  normal : built.normalize = .ok arena
  /-- The links lead from the first record at the top level over these records. -/
  visits : Visits arena.records arena.first ids
  /-- They lead over every record once. -/
  every : ids.Perm (List.range arena.records.length)
  /-- The document is spelled on the way. -/
  spells : Spells arena.records arena.first none ids top
  /-- Behind the records that were built, there are at most those of an `html` and of a `body`. -/
  added : ∃ added, arena.records.map (·.content) = built.records.map (·.content) ++ added ∧
    added.Sublist [.element "html" [], .element "body" []]
  /-- Without them, what is met on the way is what the events tell. -/
  told : (ids.filter (· < built.records.length)).flatMap (marksAt arena.records) =
    r.events.flatMap (·.2.marks)

theorem keeps_of_ofReading {mode : Mode} {r : Reading} {top : List Node}
    (h : Assembly.ofReading mode r = .ok top) :
    ∃ arena ids, Keeps mode r (Document.normalized top) (ofRow top) arena ids := by
  have holds := holds_ofRow top
  obtain ⟨arena, ids, added, normal, final, grown, few⟩ := normalize_of_holds holds
  refine ⟨arena, ids, ⟨?_, normal, final.spells.visits rfl, final.every, final.spells,
    ⟨added, grown.contents, few⟩, ?_⟩⟩
  · rw [build_eq, h]
    rfl
  · rw [grown.kept, ← Assembly.marksOf_ofReading h, ← flatMap_marksAt grown.contents, ofRow,
      Node.length_layout]

/-- The arena of a source holds the document of the source, or both are refused with one error. -/
theorem read_cases (source : String) (mode : Mode) :
    (∃ e, Arena.read source mode = .error (.markup e) ∧ Document.read source mode = .error e) ∨
      ∃ arena ids d, Arena.read source mode = .ok arena ∧ Document.read source mode = .ok d ∧
        arena.Holds ids d.top := by
  cases assembled : Assembly.ofReading mode (.ofSource source) with
  | error e =>
    refine .inl ⟨e, ?_, ?_⟩
    · rw [Arena.read, build_eq, assembled]
      rfl
    · rw [Document.read, assembled]
      rfl
  | ok top =>
    obtain ⟨arena, ids, keeps⟩ := keeps_of_ofReading assembled
    refine .inr ⟨arena, ids, ⟨Document.normalized top⟩, ?_, ?_, keeps.spells, keeps.every⟩
    · rw [Arena.read, keeps.run, ok_bind, keeps.normal]
    · rw [Document.read, assembled]
      rfl

theorem holds_of_read {source : String} {mode : Mode} {d : Document}
    (h : Document.read source mode = .ok d) :
    ∃ arena ids, Arena.read source mode = .ok arena ∧ arena.Holds ids d.top := by
  rcases read_cases source mode with ⟨e, -, refused⟩ | ⟨arena, ids, d', reads, read, holds⟩
  · cases h.symm.trans refused
  · cases h.symm.trans read
    exact ⟨arena, ids, reads, holds⟩

/-- **Reading loses, duplicates and reorders nothing.** An arena is built of every row of events, and
brought into normal form, without an index out of bounds or a way without an end; only errors of the
markup are reported. Where a source is read as a document, the links of its arena lead over every
record once and spell the document, and without the elements that are put in, the elements and the
characters on the way are those of the tags and of the texts of the source, in their order. -/
theorem reading_keeps_all (source : String) (mode : Mode) :
    (∀ (r : Reading) (fault : ArenaFault), build mode r >>= normalize = .error fault →
      ∃ e, fault = .markup e ∧ Assembly.ofReading mode r = .error e) ∧
    ∀ d, Document.read source mode = .ok d →
      ∃ built arena ids, Keeps mode (.ofSource source) d.top built arena ids := by
  refine ⟨fun r fault h => ?_, fun d h => ?_⟩
  · cases e : Assembly.ofReading mode r with
    | ok top =>
      obtain ⟨arena, ids, keeps⟩ := keeps_of_ofReading e
      rw [keeps.run, ok_bind, keeps.normal] at h
      cases h
    | error e' =>
      rw [build_eq, e] at h
      cases h
      exact ⟨e', rfl, rfl⟩
  · obtain ⟨top, assembled, rfl⟩ := ok_of_map h
    exact ⟨_, keeps_of_ofReading assembled⟩

/-- A fragment with blank text before its head and a text in three parts. -/
theorem reading_keeps_all_fragment :
    (∃ e, ArenaFault.markup (.syntaxFault 3 .openTag) = .markup e ∧
      Assembly.ofReading .lenient ⟨[(0, .start "b" [])], some (3, .openTag)⟩ = .error e) ∧
    ∃ built arena ids, Keeps .lenient (.ofSource " <head/>t<![CDATA[u]]><!-- -->v<b>")
      [.element 0 "html" []
        [.text 1 " ", .element 1 "head" [] [], .element 1 "body" []
          [.text 2 "tuv", .element 2 "b" [] []]]] built arena ids := by
  have all := reading_keeps_all " <head/>t<![CDATA[u]]><!-- -->v<b>" .lenient
  have refused : build .lenient ⟨[(0, .start "b" [])], some (3, .openTag)⟩ >>= normalize =
      .error (.markup (.syntaxFault 3 .openTag)) := by cbv
  refine ⟨all.1 _ _ refused, all.2 ⟨_⟩ ?_⟩
  cbv

end Arena

end Stencil
