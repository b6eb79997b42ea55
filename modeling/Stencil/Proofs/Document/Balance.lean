import Mathlib
import Stencil.Proofs.Brackets
import Stencil.Proofs.Document.Modes

/-!
# Document — balanced markup

The strict way of reading takes exactly the sources whose tags are well nested, and else reports the
first tag that is out of place (`Document.strict_reading`). Void elements and elements that close
themselves do not count.
-/

namespace Stencil

open Markup

/-! ### Tags as brackets -/

/-- The bracket that an event is: a tag of an element that can have content. -/
def Markup.Event.bracket? : Event → Option (Bracket String)
  | start name _ => if isVoid name then none else some (.opening name)
  | finish name => if isVoid name then none else some (.closing name)
  | selfClosed _ _ | text _ => none

/-- The brackets of a row of events. -/
def brackets (events : List (Nat × Event)) : List (Bracket String) :=
  events.filterMap (·.2.bracket?)

theorem brackets_append (events later : List (Nat × Event)) :
    brackets (events ++ later) = brackets events ++ brackets later :=
  List.filterMap_append

theorem brackets_finish {position : Nat} {name : String} (solid : isVoid name = false)
    (later : List (Nat × Event)) :
    brackets ((position, .finish name) :: later) = .closing name :: brackets later := by
  simp [brackets, Event.bracket?, solid]

/-- What is wrong with an end tag behind which these elements are open, the innermost first. -/
inductive Misplaced (position : Nat) (name : String) : List String → MarkupError → Prop
  | unmatched {left : List String} : name ∉ left →
      Misplaced position name left (.unmatchedEndTag position name)
  | mismatched {innermost : String} {outer : List String} : name ≠ innermost → name ∈ outer →
      Misplaced position name (innermost :: outer) (.mismatchedEndTag position innermost name)

/-- The first tag that is out of place: an end tag before which all tags are in place, or else the
start tag of the innermost element that is open at the end. -/
inductive Violation (events : List (Nat × Event)) : MarkupError → Prop
  | misplaced {before later : List (Nat × Event)} {position : Nat} {name : String}
      {left : List String} {e : MarkupError} : events = before ++ (position, .finish name) :: later →
      isVoid name = false → Bracket.Leaves (brackets before) left →
      Misplaced position name left e → Violation events e
  | unclosed {innermost : String} {outer : List String} :
      Bracket.Leaves (brackets events) (innermost :: outer) →
      Violation events (.unclosedElement innermost)

theorem Misplaced.head?_ne {position : Nat} {name : String} {left : List String} {e : MarkupError}
    (h : Misplaced position name left e) : left.head? ≠ some name := by
  cases h with
  | unmatched absent =>
    intro same
    exact absent (List.mem_of_head? same)
  | mismatched other _ =>
    intro same
    exact other (Option.some.inj same).symm

/-- An end tag is out of place in one way only. -/
theorem Misplaced.unique {position : Nat} {name : String} {left : List String} {e e' : MarkupError}
    (h : Misplaced position name left e) (h' : Misplaced position name left e') : e = e' := by
  cases h with
  | unmatched absent =>
    cases h' with
    | unmatched _ => rfl
    | mismatched _ mem => exact absurd (List.mem_cons_of_mem _ mem) absent
  | mismatched _ mem =>
    cases h' with
    | unmatched absent => exact absurd (List.mem_cons_of_mem _ mem) absent
    | mismatched _ _ => rfl

/-- What is wrong with the first end tag that is out of place in a row, where these brackets stand
before the row. -/
inductive Refused (before : List (Bracket String)) (events : List (Nat × Event)) :
    MarkupError → Prop
  | mk {first later : List (Nat × Event)} {position : Nat} {name : String} {left : List String}
      {e : MarkupError} : events = first ++ (position, .finish name) :: later →
      isVoid name = false → Bracket.Leaves (before ++ brackets first) left →
      Misplaced position name left e → Refused before events e

theorem brackets_front (before : List (Bracket String)) (event : Nat × Event)
    (rest : List (Nat × Event)) :
    before ++ brackets [event] ++ brackets rest = before ++ brackets (event :: rest) := by
  rw [List.append_assoc, ← brackets_append, List.singleton_append]

theorem Refused.cons {before : List (Bracket String)} {event : Nat × Event}
    {rest : List (Nat × Event)} {e : MarkupError} (h : Refused (before ++ brackets [event]) rest e) :
    Refused before (event :: rest) e := by
  obtain ⟨rfl, solid, hl, he⟩ := h
  rw [brackets_front] at hl
  exact .mk (List.cons_append ..).symm solid hl he

namespace Assembly

variable {a b : Assembly} {mode : Mode} {name : String} {position : Nat} {event : Nat × Event}
  {events : List (Nat × Event)} {before : List (Bracket String)} {left : List String}

/-! ### One event -/

/-- The names of the open elements, the innermost first. -/
def openNames (a : Assembly) : List String := a.enclosing.map (·.name)

theorem openNames_write (a : Assembly) (content : String) :
    (a.write content).openNames = a.openNames := by
  rw [write]
  split
  · rfl
  · split
    · rfl
    · rfl

theorem close_of_void (void : isVoid name) (mode : Mode) (a : Assembly) :
    a.close mode position name = .ok a := by
  unfold close
  rw [if_pos void]

/-- What is no bracket leaves the open elements as they are, in both ways of reading. -/
theorem step_of_no_bracket (h : event.2.bracket? = none) (mode : Mode) (a : Assembly) :
    ∃ b, step mode a event = .ok b ∧ b.openNames = a.openNames := by
  obtain ⟨position, event⟩ := event
  cases event with
  | start name attributes =>
    have void : isVoid name := by simpa [Event.bracket?] using h
    exact ⟨a.leaf name attributes, by rw [step, if_pos void], rfl⟩
  | selfClosed name attributes => exact ⟨a.leaf name attributes, rfl, rfl⟩
  | finish name =>
    have void : isVoid name := by simpa [Event.bracket?] using h
    exact ⟨a, close_of_void void mode a, rfl⟩
  | text content => exact ⟨a.write content, rfl, a.openNames_write content⟩

theorem step_of_opening (h : event.2.bracket? = some (.opening name)) (mode : Mode)
    (a : Assembly) : ∃ b, step mode a event = .ok b ∧ b.openNames = name :: a.openNames := by
  obtain ⟨position, event⟩ := event
  cases event with
  | start n attributes =>
    obtain ⟨solid, rfl⟩ : isVoid n = false ∧ n = name := by simpa [Event.bracket?] using h
    exact ⟨a.enter n attributes, by simp [step, solid], rfl⟩
  | finish n => simp [Event.bracket?] at h
  | selfClosed n attributes => cases h
  | text content => cases h

theorem eq_finish_of_closing (h : event.2.bracket? = some (.closing name)) :
    ∃ position, event = (position, .finish name) ∧ isVoid name = false := by
  obtain ⟨position, event⟩ := event
  cases event with
  | start n attributes => simp [Event.bracket?] at h
  | finish n =>
    obtain ⟨solid, rfl⟩ : isVoid n = false ∧ n = name := by simpa [Event.bracket?] using h
    exact ⟨position, rfl, solid⟩
  | selfClosed n attributes => cases h
  | text content => cases h

theorem inside?_eq_none (h : name ∉ a.openNames) : a.inside? name = none := by
  rw [inside?, List.findIdx?_eq_none_iff]
  intro o mem
  exact beq_eq_false_iff_ne.mpr fun same => h (same ▸ List.mem_map_of_mem mem)

/-- An end tag for the innermost open element closes it. -/
theorem close_of_innermost {o : OpenElement} {outer : List OpenElement} (solid : isVoid name = false)
    (h : a.enclosing = o :: outer) (same : o.name = name) (mode : Mode) :
    a.close mode position name = .ok a.leave := by
  have here : a.inside? name = some 0 := by simp [inside?, h, List.findIdx?_cons, same]
  unfold close
  rw [if_neg (by simp [solid]), here, h]
  cases mode with
  | lenient => rfl
  | strict => rfl

/-- An end tag is in place, or it is refused. -/
theorem step_strict_of_closing (solid : isVoid name = false) (a : Assembly) (position : Nat) :
    (∃ b, step .strict a (position, .finish name) = .ok b ∧
        a.openNames = name :: b.openNames) ∨
      ∃ e, step .strict a (position, .finish name) = .error e ∧
        Misplaced position name a.openNames e := by
  rw [step]
  by_cases absent : name ∈ a.openNames
  · cases e : a.enclosing with
    | nil => simp [openNames, e] at absent
    | cons o outer =>
      by_cases same : o.name = name
      · refine .inl ⟨a.leave, close_of_innermost solid e same .strict, ?_⟩
        simp [openNames, leave, e, same]
      · -- the element that is named is open, but not the innermost one
        have further : name ∈ outer.map (·.name) := by
          simpa [openNames, e, Ne.symm same] using absent
        obtain ⟨inside, found⟩ : ∃ inside, a.inside? name = some (inside + 1) := by
          rw [inside?, e, List.findIdx?_cons, if_neg (by simpa using same)]
          cases f : outer.findIdx? (·.name == name) with
          | some i => exact ⟨i, by simp⟩
          | none =>
            obtain ⟨o', mem, eq⟩ := List.mem_map.mp further
            exact absurd (List.findIdx?_eq_none_iff.mp f o' mem) (by simp [eq])
        refine .inr ⟨.mismatchedEndTag position o.name name, ?_, ?_⟩
        · unfold close
          rw [if_neg (by simp [solid]), found, e]
        · rw [openNames, e, List.map_cons]
          exact .mismatched (Ne.symm same) further
  · refine .inr ⟨.unmatchedEndTag position name, ?_, .unmatched absent⟩
    unfold close
    rw [if_neg (by simp [solid]), inside?_eq_none absent]

/-! ### Rows of events -/

/-- A row of tags is taken as far as they are in place, and the first end tag that is not is
reported. -/
theorem foldlM_strict_cases (events : List (Nat × Event)) : ∀ (a : Assembly) (before),
    Bracket.Leaves before a.openNames →
    (∃ b, events.foldlM (step .strict) a = .ok b ∧
        Bracket.Leaves (before ++ brackets events) b.openNames) ∨
      ∃ e, events.foldlM (step .strict) a = .error e ∧ Refused before events e := by
  induction events with
  | nil => exact fun a before h => .inl ⟨a, rfl, by simpa [brackets] using h⟩
  | cons event rest ih =>
    intro a before h
    -- where the event is taken, its bracket stands before the rest of the row
    have go : ∀ b, step .strict a event = .ok b →
        Bracket.Leaves (before ++ brackets [event]) b.openNames →
        (∃ c, (event :: rest).foldlM (step .strict) a = .ok c ∧
            Bracket.Leaves (before ++ brackets (event :: rest)) c.openNames) ∨
          ∃ e, (event :: rest).foldlM (step .strict) a = .error e ∧
            Refused before (event :: rest) e := by
      intro b taken hb
      rw [List.foldlM_cons, taken]
      rcases ih b _ hb with ⟨c, run, hc⟩ | ⟨e, run, refused⟩
      · exact .inl ⟨c, run, brackets_front before event rest ▸ hc⟩
      · exact .inr ⟨e, run, refused.cons⟩
    cases kind : event.2.bracket? with
    | none =>
      obtain ⟨b, taken, same⟩ := step_of_no_bracket kind .strict a
      exact go b taken (by simpa [brackets, kind, same] using h)
    | some bracket =>
      cases bracket with
      | opening name =>
        obtain ⟨b, taken, more⟩ := step_of_opening kind .strict a
        exact go b taken (by simpa [brackets, kind, more] using h.opening name)
      | closing name =>
        obtain ⟨position, rfl, solid⟩ := eq_finish_of_closing kind
        rcases step_strict_of_closing solid a position with ⟨b, taken, fewer⟩ | ⟨e, refused, he⟩
        · rw [fewer] at h
          exact go b taken (by simpa [brackets, kind] using h.closing)
        · refine .inr ⟨e, ?_, .mk (List.nil_append _).symm solid (by simpa [brackets] using h) he⟩
          rw [List.foldlM_cons, refused]
          rfl

/-- A row of tags that are in place is taken. -/
theorem foldlM_strict_of_leaves (h : Bracket.Leaves (brackets events) left) :
    ∃ b, events.foldlM (step .strict) empty = .ok b ∧ b.openNames = left := by
  rcases foldlM_strict_cases events empty [] (.nothing .nil) with
    ⟨b, run, hb⟩ | ⟨e, -, split, solid, hl, he⟩
  · exact ⟨b, run, hb.unique h⟩
  · rw [split, brackets_append, brackets_finish solid] at h
    exact absurd h (Bracket.not_leaves_of_closing hl he.head?_ne)

theorem finish_strict_of_nil (h : b.openNames = []) :
    b.finish .strict = .ok (leaveAll b.enclosing.length b).siblings.reverse := by
  rw [openNames, List.map_eq_nil_iff] at h
  unfold finish
  rw [h]

theorem finish_strict_of_cons {innermost : String} {outer : List String}
    (h : b.openNames = innermost :: outer) :
    b.finish .strict = .error (.unclosedElement innermost) := by
  obtain ⟨o, rest, e, rfl, -⟩ := List.map_eq_cons_iff.mp h
  unfold finish
  rw [e]

variable {r : Reading}

theorem ofReading_of_sound (sound : r.fault = none) (mode : Mode) :
    ofReading mode r = r.events.foldlM (step mode) empty >>= (·.finish mode) := by
  rw [ofReading, sound]

/-- Well nested tags are taken. -/
theorem ofReading_of_wellNested (sound : r.fault = none)
    (h : Bracket.WellNested (brackets r.events)) : ∃ top, ofReading .strict r = .ok top := by
  obtain ⟨b, run, none⟩ := foldlM_strict_of_leaves (.nothing h)
  exact ⟨_, by rw [ofReading_of_sound sound, run]; exact finish_strict_of_nil none⟩

/-- The first tag that is out of place is reported. -/
theorem ofReading_of_violation (sound : r.fault = none) {e : MarkupError}
    (h : Violation r.events e) : ofReading .strict r = .error e := by
  rw [ofReading_of_sound sound]
  cases h with
  | @misplaced before later position name left _ split solid hl he =>
    obtain ⟨b, run, rfl⟩ := foldlM_strict_of_leaves hl
    have refused : step .strict b (position, .finish name) = .error e := by
      rcases step_strict_of_closing solid b position with ⟨c, -, fewer⟩ | ⟨e', refused, he'⟩
      · exact absurd (by rw [fewer]; rfl) he.head?_ne
      · rw [refused, he'.unique he]
    rw [split, List.foldlM_append, run]
    change ((position, Event.finish name) :: later).foldlM (step .strict) b >>= _ = _
    rw [List.foldlM_cons, refused]
    rfl
  | unclosed open_ =>
    obtain ⟨b, run, names⟩ := foldlM_strict_of_leaves open_
    rw [run]
    exact finish_strict_of_cons names

/-- **A row of events is taken strictly, or its first tag that is out of place is reported.** -/
theorem ofReading_strict_cases (sound : r.fault = none) :
    (∃ top, ofReading .strict r = .ok top) ∧ Bracket.WellNested (brackets r.events) ∨
      ∃ e, ofReading .strict r = .error e ∧ Violation r.events e := by
  rcases foldlM_strict_cases r.events empty [] (.nothing .nil) with
    ⟨b, run, hb⟩ | ⟨e, -, split, solid, hl, he⟩
  · cases names : b.openNames with
    | nil =>
      rw [names] at hb
      have nested := Bracket.wellNested_iff.mpr hb
      exact .inl ⟨ofReading_of_wellNested sound nested, nested⟩
    | cons innermost outer =>
      rw [names] at hb
      exact .inr ⟨_, ofReading_of_violation sound (.unclosed hb), .unclosed hb⟩
  · have violation : Violation r.events e := .misplaced split solid hl he
    exact .inr ⟨e, ofReading_of_violation sound violation, violation⟩

end Assembly

namespace Document

/-- **Strict reading takes exactly balanced markup, and agrees with lenient reading.** A source
without faults of syntax is read strictly if and only if its tags are well nested, void elements and
elements that close themselves left out; it is then read leniently to the same document. Else the
first tag that is out of place is reported: an end tag that names no open element, or one that names
an open element but not the innermost; or the innermost element that is open at the end. -/
theorem strict_reading (source : String) (sound : (Reading.ofSource source).fault = none) :
    ((∃ d, read source .strict = .ok d) ↔
        Bracket.WellNested (brackets (Reading.ofSource source).events)) ∧
      (∀ d, read source .strict = .ok d → read source .lenient = .ok d) ∧
      ∀ e, read source .strict = .error e ↔ Violation (Reading.ofSource source).events e := by
  refine ⟨⟨fun ⟨d, h⟩ => ?_, fun nested => ?_⟩, fun d => read_lenient_of_strict, fun e =>
    ⟨fun h => ?_, fun violation => ?_⟩⟩
  · obtain ⟨top, assembled, -⟩ := ok_of_map h
    rcases Assembly.ofReading_strict_cases sound with ⟨-, nested⟩ | ⟨e, refused, -⟩
    · exact nested
    · rw [refused] at assembled
      cases assembled
  · obtain ⟨top, assembled⟩ := Assembly.ofReading_of_wellNested sound nested
    exact ⟨⟨normalized top⟩, by rw [read, assembled]; rfl⟩
  · rcases Assembly.ofReading_strict_cases sound with ⟨⟨top, assembled⟩, -⟩ | ⟨e', refused, found⟩
    · rw [read, assembled] at h
      cases h
    · rw [read, refused] at h
      cases h
      exact found
  · rw [read, Assembly.ofReading_of_violation sound violation]
    rfl

/-- A list whose last item is still open at its end, among void elements in every form. -/
theorem strict_reading_list :
    (Reading.ofSource "<ul><LI>a<br></BR><b/></ul>").fault = none ∧
      read "<ul><LI>a<br></BR><b/></ul>" .strict =
        .error (.mismatchedEndTag 22 "li" "ul") := by
  have sound : (Reading.ofSource "<ul><LI>a<br></BR><b/></ul>").fault = none := by cbv
  have events : (Reading.ofSource "<ul><LI>a<br></BR><b/></ul>").events =
      [(0, .start "ul" []), (4, .start "li" []), (8, .text "a"), (9, .start "br" []),
        (13, .finish "br"), (18, .selfClosed "b" [])] ++ [(22, .finish "ul")] := by cbv
  refine ⟨sound, ((strict_reading _ sound).2.2 _).mpr ?_⟩
  exact .misplaced events (by decide) (.more (.more (.nothing .nil) .nil) .nil)
    (.mismatched (by decide) (.head _))

end Document

end Stencil
