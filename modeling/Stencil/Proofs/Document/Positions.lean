import Stencil.Document.Read
import Stencil.Proofs.Markup.Concat
import Stencil.Proofs.Success

/-!
# Document — positions of errors

An error that is reported at a byte of a source is about the piece of markup whose bracket stands
there: one that is no markup or has no end, or an end tag (`Document.offends_of_read`). A byte order
mark at the start of the source does not count.
-/

namespace Stencil

namespace Markup

variable {s : List Char} {position : Nat} {fault : SyntaxFault} {pieces : List Piece} {e : Event}
  {name : String}

theorem byteLength_append (s t : List Char) :
    byteLength (s ++ t) = byteLength s + byteLength t := by
  induction s with
  | nil => rw [List.nil_append, byteLength, Nat.zero_add]
  | cons c rest ih => rw [List.cons_append, byteLength, byteLength, ih, Nat.add_assoc]

/-- The byte at which an error is reported, if it is reported at one. -/
def MarkupError.position? : MarkupError → Option Nat
  | syntaxFault position _ => some position
  | unmatchedEndTag position _ => some position
  | mismatchedEndTag position _ _ => some position
  | unclosedElement _ | unknownCharset _ => none

/-- What an error can say of what stands behind a bracket `<`: that it is no piece of markup, or
that the end tag that it is names no open element, or not the innermost one. -/
inductive Offends (s : List Char) : MarkupError → Prop
  | noMarkup {position : Nat} {fault : SyntaxFault} : markup? s = .error fault →
      Offends s (.syntaxFault position fault)
  | unmatched {position : Nat} {content after : List Char} :
      markup? s = .ok (.endTag content, after) →
      Offends s (.unmatchedEndTag position (endName content))
  | mismatched {position : Nat} {expected : String} {content after : List Char} :
      markup? s = .ok (.endTag content, after) →
      Offends s (.mismatchedEndTag position expected (endName content))

/-! ### Pieces and events -/

namespace Pieces

/-- A source is at its end, or starts with markup or what cannot be read as such, or with a text. -/
theorem ofSource_cases (s : List Char) :
    s = [] ∧ ofSource s = ⟨[], none⟩ ∨
      (∃ tag fault, s = '<' :: tag ∧ markup? tag = .error fault ∧ ofSource s = ⟨[], some fault⟩) ∨
      (∃ tag p after, s = '<' :: tag ∧ markup? tag = .ok (p, after) ∧
        ofSource s = (ofSource after).cons p) ∨
      ∃ raw after, s = raw ++ after ∧ ofSource s = (ofSource after).cons (.text raw) := by
  cases s with
  | nil => exact .inl ⟨rfl, ofSource_nil⟩
  | cons c rest =>
    by_cases bracket : c = '<'
    · subst bracket
      cases found : markup? rest with
      | error fault => exact .inr (.inl ⟨rest, fault, rfl, found, ofSource_fault found⟩)
      | ok piece =>
        obtain ⟨p, after⟩ := piece
        exact .inr (.inr (.inl ⟨rest, p, after, rfl, found, ofSource_markup found⟩))
    · refine .inr (.inr (.inr ⟨_, _, ?_, ofSource_text bracket rest⟩))
      rw [List.cons_append, List.takeWhile_append_dropWhile]

/-- Behind its first piece, a source is cut into the other ones. -/
theorem ofSource_behind {p : Piece} {rest : List Piece} {f : Option SyntaxFault}
    (h : ofSource s = ⟨p :: rest, f⟩) :
    ∃ after, s = p.lexeme ++ after ∧ ofSource after = ⟨rest, f⟩ := by
  rcases ofSource_cases s with ⟨-, cut⟩ | ⟨tag, fault, -, -, cut⟩ |
    ⟨tag, q, after, start, read, cut⟩ | ⟨raw, after, start, cut⟩
  · cases cut.symm.trans h
  · cases cut.symm.trans h
  · obtain ⟨same, rfl⟩ := Pieces.mk.inj (cut.symm.trans h)
    obtain ⟨rfl, rfl⟩ := List.cons.inj same
    exact ⟨after, by rw [lexeme_append_of_markup? read, start], rfl⟩
  · obtain ⟨same, rfl⟩ := Pieces.mk.inj (cut.symm.trans h)
    obtain ⟨rfl, rfl⟩ := List.cons.inj same
    exact ⟨after, start, rfl⟩

/-- Behind some of its pieces, a source is cut into the other ones. -/
theorem ofSource_behind_all (before : List Piece) : ∀ {s : List Char} {after : List Piece}
    {f : Option SyntaxFault}, ofSource s = ⟨before ++ after, f⟩ →
    ∃ rest, s = before.flatMap Piece.lexeme ++ rest ∧ ofSource rest = ⟨after, f⟩ := by
  induction before with
  | nil => exact fun h => ⟨_, rfl, h⟩
  | cons p before ih =>
    intro s after f h
    obtain ⟨rest, rfl, later⟩ := ofSource_behind h
    obtain ⟨rest, rfl, cut⟩ := ih later
    exact ⟨rest, by rw [List.flatMap_cons, List.append_assoc], cut⟩

theorem bracket_of_fault (h : ofSource s = ⟨[], some fault⟩) :
    ∃ tag, s = '<' :: tag ∧ markup? tag = .error fault := by
  rcases ofSource_cases s with ⟨-, cut⟩ | ⟨tag, other, start, failed, cut⟩ |
    ⟨tag, q, after, -, -, cut⟩ | ⟨raw, after, -, cut⟩
  · cases cut.symm.trans h
  · cases cut.symm.trans h
    exact ⟨tag, start, failed⟩
  · cases cut.symm.trans h
  · cases cut.symm.trans h

theorem bracket_of_endTag {content : List Char} {rest : List Piece} {f : Option SyntaxFault}
    (h : ofSource s = ⟨.endTag content :: rest, f⟩) :
    ∃ tag after, s = '<' :: tag ∧ markup? tag = .ok (.endTag content, after) := by
  rcases ofSource_cases s with ⟨-, cut⟩ | ⟨tag, fault, -, -, cut⟩ |
    ⟨tag, q, after, start, read, cut⟩ | ⟨raw, after, -, cut⟩
  · cases cut.symm.trans h
  · cases cut.symm.trans h
  · cases cut.symm.trans h
    exact ⟨tag, after, start, read⟩
  · cases cut.symm.trans h

end Pieces

/-- An event stands at the byte at which its piece starts. -/
theorem piece_of_mem_eventsFrom (start : Nat) (mem : (position, e) ∈ eventsFrom start pieces) :
    ∃ before p after, pieces = before ++ p :: after ∧
      position = start + byteLength (before.flatMap Piece.lexeme) ∧ p.event? = some e := by
  induction pieces generalizing start with
  | nil => cases mem
  | cons q rest ih =>
    have later (mem : (position, e) ∈ eventsFrom (start + byteLength q.lexeme) rest) :
        ∃ before p after, q :: rest = before ++ p :: after ∧
          position = start + byteLength (before.flatMap Piece.lexeme) ∧ p.event? = some e := by
      obtain ⟨before, p, after, rfl, rfl, event⟩ := ih _ mem
      refine ⟨q :: before, p, after, rfl, ?_, event⟩
      rw [List.flatMap_cons, byteLength_append, Nat.add_assoc]
    rw [eventsFrom] at mem
    cases said : q.event? with
    | none =>
      rw [said] at mem
      exact later mem
    | some event =>
      rw [said] at mem
      rcases List.mem_cons.mp mem with here | behind
      · cases here
        exact ⟨[], q, rest, rfl, rfl, said⟩
      · exact later behind

/-- Only an end tag says that an element is closed. -/
theorem endTag_of_event? {p : Piece} (h : p.event? = some (.finish name)) :
    ∃ content, p = .endTag content ∧ endName content = name := by
  cases p with
  | endTag content =>
    cases h
    exact ⟨content, rfl, rfl⟩
  | startTag content =>
    rw [Piece.event?] at h
    split at h
    · cases h
    · cases h
  | text raw | cdata content | comment content | doctype content | instruction content => cases h

end Markup

open Markup

/-! ### Trees under way -/

/-- An error about an end tag that is read at a position. -/
inductive AtEndTag (position : Nat) (name : String) : MarkupError → Prop
  | unmatched : AtEndTag position name (.unmatchedEndTag position name)
  | mismatched {expected : String} :
      AtEndTag position name (.mismatchedEndTag position expected name)

namespace Assembly

variable {a : Assembly} {mode : Mode} {position : Nat} {name : String} {e : MarkupError}

theorem atEndTag_of_close (h : a.close mode position name = .error e) :
    AtEndTag position name e := by
  unfold close at h
  split at h
  · cases h
  · split at h
    · cases h
    · cases h
      exact .unmatched
    · cases h
      exact .mismatched
    · cases h

theorem atEndTag_of_step {event : Nat × Event} (h : step mode a event = .error e) :
    ∃ name, event.2 = .finish name ∧ AtEndTag event.1 name e := by
  obtain ⟨position, event⟩ := event
  cases event with
  | start name attributes => cases h
  | selfClosed name attributes => cases h
  | finish name => exact ⟨name, rfl, atEndTag_of_close h⟩
  | text content => cases h

/-- Of a row of events only an end tag is refused. -/
theorem atEndTag_of_foldlM (events : List (Nat × Event)) : ∀ {a : Assembly},
    events.foldlM (step mode) a = .error e →
    ∃ position name, (position, .finish name) ∈ events ∧ AtEndTag position name e := by
  induction events with
  | nil =>
    intro a h
    cases h
  | cons event rest ih =>
    intro a h
    rw [List.foldlM_cons] at h
    rcases error_of_bind h with here | ⟨b, -, later⟩
    · obtain ⟨name, same, about⟩ := atEndTag_of_step here
      obtain ⟨position, event⟩ := event
      cases same
      exact ⟨position, name, List.mem_cons_self, about⟩
    · obtain ⟨position, name, mem, about⟩ := ih later
      exact ⟨position, name, List.mem_cons_of_mem _ mem, about⟩

theorem position?_of_finish (h : a.finish mode = .error e) : e.position? = none := by
  unfold finish at h
  split at h
  · cases h
    rfl
  · cases h

end Assembly

namespace Document

variable {source : String} {mode : Mode} {e : MarkupError} {position : Nat}

/-- A source that is not read has a fault, or an end tag that is refused; or the error is reported
at no byte. -/
theorem fails_of_read {pieces : List Piece} {f : Option SyntaxFault}
    (cut : Pieces.ofSource (dropMark source.toList) = ⟨pieces, f⟩)
    (h : read source mode = .error e) :
    (∃ fault, f = some fault ∧
        e = .syntaxFault (byteLength (pieces.flatMap Piece.lexeme)) fault) ∨
      (∃ p name, (p, .finish name) ∈ eventsFrom 0 pieces ∧ AtEndTag p name e) ∨
      e.position? = none := by
  have assembled : Assembly.ofReading mode (.ofSource source) = .error e := by
    cases found : Assembly.ofReading mode (.ofSource source) with
    | error other =>
      rw [read, found] at h
      cases h
      rfl
    | ok top =>
      rw [read, found] at h
      cases h
  rw [Reading.ofSource, cut] at assembled
  rcases error_of_bind assembled with refused | ⟨a, -, last⟩
  · exact .inr (.inl (Assembly.atEndTag_of_foldlM _ refused))
  · cases f with
    | some fault =>
      cases last
      exact .inl ⟨fault, rfl, rfl⟩
    | none => exact .inr (.inr (Assembly.position?_of_finish last))

/-- **An error stands at the bracket of what it is about.** If a source is not read, and this is
reported at a byte, then as many bytes of the source stand in front of a bracket `<`, a byte order
mark at its start left out, and what is behind the bracket is what is reported. -/
theorem offends_of_read (h : read source mode = .error e) (at_ : e.position? = some position) :
    ∃ before after, dropMark source.toList = before ++ '<' :: after ∧
      byteLength before = position ∧ Offends after e := by
  cases cut : Pieces.ofSource (dropMark source.toList) with
  | mk pieces f =>
    rcases fails_of_read cut h with ⟨fault, rfl, rfl⟩ | ⟨p, name, mem, about⟩ | silent
    · rw [← List.append_nil pieces] at cut
      obtain ⟨rest, split, faulty⟩ := Pieces.ofSource_behind_all pieces cut
      obtain ⟨tag, rfl, failed⟩ := Pieces.bracket_of_fault faulty
      cases at_
      exact ⟨_, tag, split, rfl, .noMarkup failed⟩
    · obtain ⟨before, piece, after, rfl, rfl, event⟩ := piece_of_mem_eventsFrom 0 mem
      obtain ⟨content, rfl, rfl⟩ := endTag_of_event? event
      obtain ⟨rest, split, later⟩ := Pieces.ofSource_behind_all before cut
      obtain ⟨tag, behind, rfl, found⟩ := Pieces.bracket_of_endTag later
      refine ⟨_, tag, split, ?_, ?_⟩
      · cases about with
        | unmatched | mismatched =>
          cases at_
          exact (Nat.zero_add _).symm
      · cases about with
        | unmatched => exact .unmatched found
        | mismatched => exact .mismatched found
    · cases silent.symm.trans at_

end Document

end Stencil
