import Stencil.Matching.Run
import Stencil.Proofs.Capture.Scope
import Stencil.Proofs.Matching.Progress

/-!
# Matching — what is told on the way

What a match tells is so (`Pattern.told_matcher`): a text that it carries or binds is empty or
stands in the row, or is a run of texts there; a scope that it shows binds the name that was
captured to the text that was captured; and a node before which a part of the pattern ran out is one
of the row or below it.
-/

namespace Stencil

/-- A text is empty, or stands at a position of a row or of what is below it, as a text or as the run
of texts and line ends from there on. -/
def Site.Shows (row : Position) (value : String) : Prop :=
  value = "" ∨ ∃ t after, t :: after ∈ positions row ∧
    (t.text? = some value ∨ Matcher.textRun (t :: after) = value)

/-- What a happening tells of a row is so. -/
def Happening.Fits (row : Position) : Happening → Prop
  | captured name value scope => scope.innermost.get? name = some value ∧ Site.Shows row value
  | ranOut t => ∃ after, t :: after ∈ Site.positions row

section Rows

variable {row inner : Position} {value : String} {happening : Happening}

theorem Site.Shows.of_mem (h : Shows inner value) (sub : ∀ y ∈ positions inner, y ∈ positions row) :
    Shows row value := by
  rcases h with empty | ⟨t, after, mem, here⟩
  · exact .inl empty
  · exact .inr ⟨t, after, sub _ mem, here⟩

theorem Happening.Fits.of_mem (h : happening.Fits inner)
    (sub : ∀ y ∈ Site.positions inner, y ∈ Site.positions row) : happening.Fits row := by
  cases happening with
  | captured name value scope => exact ⟨h.1, h.2.of_mem sub⟩
  | ranOut t =>
    obtain ⟨after, mem⟩ := h
    exact ⟨after, sub _ mem⟩

end Rows

/-- The text that an answer carries, and all that happened on its way, is so of a row. -/
structure Attempt.Told (row : Position) (a : Attempt) : Prop where
  text : ∀ value ∈ a.verdict.text?, Site.Shows row value
  trace : ∀ happening ∈ a.trace, happening.Fits row

namespace Attempt

variable {row inner : Position} {a : Attempt} {trace : List Happening}

theorem Told.of_mem (h : a.Told inner)
    (sub : ∀ y ∈ Site.positions inner, y ∈ Site.positions row) : a.Told row :=
  ⟨fun value mem => (h.text value mem).of_mem sub, fun x mem => (h.trace x mem).of_mem sub⟩

theorem Told.of_nil (h : a.Told []) : a.Told row :=
  h.of_mem fun _ mem => absurd mem Site.not_mem_positions_nil

theorem Told.of_tail {s : Site} (h : a.Told inner) : a.Told (s :: inner) :=
  h.of_mem fun _ => Site.mem_positions_of_tail

theorem Told.after (h : a.Told row) (before : ∀ x ∈ trace, x.Fits row) :
    (a.after trace).Told row :=
  ⟨h.text, fun x mem => (List.mem_append.mp mem).elim (before x) (h.trace x)⟩

/-- An answer without a text, on whose way all is so. -/
theorem told_of_trace {v : Verdict} {s : Scope} (silent : v.text? = none)
    (h : ∀ x ∈ trace, x.Fits row) : (⟨v, s, trace⟩ : Attempt).Told row :=
  ⟨fun value mem => by simp [silent] at mem, h⟩

theorem told_quiet {v : Verdict} {s : Scope} (h : ∀ value ∈ v.text?, Site.Shows row value) :
    (quiet v s).Told row := ⟨h, by simp [quiet]⟩

end Attempt

namespace Matcher

/-- What a matcher tells at a position is so of the position. -/
def Tells (m : Matcher) : Prop := ∀ pos s, (m pos s).Told pos

variable {child next forbidden : Matcher} {s : Scope} {pos : Position}

theorem shows_textRun (starts : startsWithText pos) : Site.Shows pos (textRun pos) := by
  cases pos with
  | nil => exact .inl rfl
  | cons t after => exact .inr ⟨t, after, Site.mem_positions_self t after, .inr rfl⟩

theorem tells_literal (content : String) : Tells (literal content) := by
  rintro (_ | ⟨⟨place, name, children⟩ | ⟨place, text⟩, rest⟩) s
  · exact Attempt.told_quiet nofun
  · exact Attempt.told_quiet nofun
  · refine Attempt.told_quiet fun value mem => .inr ⟨_, rest, Site.mem_positions_self _ rest, .inl ?_⟩
    split at mem
    · exact mem
    · cases mem

theorem tells_search (regex : Regex) : Tells (search regex) := by
  intro pos s
  rw [search]
  split
  · next found =>
    refine Attempt.told_quiet fun value mem => ?_
    cases mem
    exact shows_textRun (Bool.and_eq_true_iff.mp found).1
  · exact Attempt.told_quiet (by simp [Verdict.text?])

theorem tells_element {tag : String} (hc : Tells child) (hn : Tells next) :
    Tells (element tag child next) := by
  rintro (_ | ⟨⟨place, name, children⟩ | ⟨place, content⟩, rest⟩) s
  · exact Attempt.told_quiet nofun
  · have inner : (child children s).Told (.element place name children :: rest) :=
      (hc children s).of_mem fun _ mem =>
        Site.mem_positions_of_children (s := .element place name children) mem
    rw [element]
    split
    · dsimp only
      split
      · have later := (hn rest (child children s).scope).of_tail (s := .element place name children)
        refine ⟨later.text, fun x mem => ?_⟩
        exact (List.mem_append.mp mem).elim (inner.trace x) (later.trace x)
      · exact inner
    · exact Attempt.told_quiet nofun
  · exact Attempt.told_quiet nofun

/-- A capture binds the text that its child carries, or the empty one. -/
theorem tells_capture {name : String} (hc : Tells child) : Tells (capture name child) := by
  intro pos s
  have inner := hc pos s
  rw [capture]
  dsimp only
  split
  · next text valid =>
    refine ⟨inner.text, fun x mem => ?_⟩
    rcases List.mem_append.mp mem with before | now
    · exact inner.trace x before
    · cases List.mem_singleton.mp now
      refine ⟨by rw [Scope.assign, NameMap.get?_insert, if_pos rfl], ?_⟩
      cases text with
      | none => exact .inl rfl
      | some value => exact inner.text value (by rw [valid]; rfl)
  · exact inner

/-! ### Wildcards -/

theorem told_atEnd (hn : Tells next) (s : Scope) (pos : Position) : (atEnd next s).Told pos := by
  have last : (next [] s).Told pos := (hn [] s).of_nil
  rw [atEnd]
  split
  · exact Attempt.told_of_trace rfl last.trace
  · exact Attempt.told_of_trace rfl last.trace

theorem tells_wildcard (hn : Tells next) : Tells (wildcard next) := by
  intro pos s
  induction pos with
  | nil => exact told_atEnd hn s []
  | cons x rest ih =>
    rw [wildcard]
    split
    · exact ih.of_tail.after (hn (x :: rest) s).trace
    · exact hn (x :: rest) s

theorem tells_ending : Tells ending := by
  rintro (_ | ⟨x, rest⟩) s
  · exact Attempt.told_quiet nofun
  · refine Attempt.told_of_trace rfl fun y mem => ?_
    cases List.mem_singleton.mp mem
    exact ⟨rest, Site.mem_positions_self x rest⟩

theorem tells_avoiding (hf : Tells forbidden) : Tells (avoiding forbidden) := by
  intro pos s
  induction pos with
  | nil => exact told_atEnd tells_ending s []
  | cons x rest ih =>
    rw [avoiding]
    split
    · exact ih.of_tail.after (hf (x :: rest) s).trace
    · exact Attempt.told_of_trace rfl (hf (x :: rest) s).trace

theorem tells_avoidingUntil (hf : Tells forbidden) (hn : Tells next) :
    Tells (avoidingUntil forbidden next) := by
  intro pos s
  induction pos with
  | nil => exact told_atEnd hn s []
  | cons x rest ih =>
    have tried : ∀ y ∈ (next (x :: rest) s).trace ++ (forbidden (x :: rest) s).trace,
        y.Fits (x :: rest) := fun y mem =>
      (List.mem_append.mp mem).elim ((hn (x :: rest) s).trace y) ((hf (x :: rest) s).trace y)
    rw [avoidingUntil]
    dsimp only
    split
    · exact hn (x :: rest) s
    · split
      · exact ih.of_tail.after tried
      · exact Attempt.told_of_trace rfl tried

/-! ### Repetition -/

theorem fits_rounds (forward : Forward child) (hc : Tells child) (matched : Bool) (pos : Position) :
    ∀ x ∈ (rounds child matched pos s).trace, x.Fits pos := by
  fun_induction rounds child matched pos s with
  | case1 matched pos round t rest left shorter later ih =>
    intro x mem
    rcases List.mem_append.mp mem with now | behind
    · exact (hc pos s.push).trace x now
    · -- the later rounds start at what this one leaves over, which is of the row
      exact (ih x behind).of_mem fun _ => Site.mem_positions_trans (forward _ _ _ _ left)
  | case2 matched pos round => exact (hc pos s.push).trace
  | case3 matched pos round => exact (hc pos s.push).trace
  | case4 matched pos round => exact (hc pos s.push).trace

theorem tells_many (forward : Forward child) (hc : Tells child) (hn : Tells next) :
    Tells (many child next) := by
  intro pos s
  have all := fits_rounds (s := s) forward hc false pos
  rw [many]
  split
  · refine Attempt.Told.after ?_ all
    split
    · exact (hn [] s).of_nil
    · rcases rounds_tail forward false pos (s := s) with same | further
      · rw [same]
        exact hn pos s
      · exact (hn _ s).of_mem fun _ => Site.mem_positions_trans further
  · exact Attempt.told_of_trace rfl all

/-! ### Alternatives -/

theorem told_firstOf {branches : List Matcher} (forward : ∀ b ∈ branches, Forward b)
    (hb : ∀ b ∈ branches, Tells b) (hn : Tells next) (x : Site) (rest : List Site) :
    (firstOf next x rest s branches).Told (x :: rest) := by
  induction branches with
  | nil => exact Attempt.told_quiet nofun
  | cons branch branches ih =>
    have here := (hb branch List.mem_cons_self (x :: rest) s).trace
    have later := ih (fun b mem => forward b (List.mem_cons_of_mem _ mem))
      fun b mem => hb b (List.mem_cons_of_mem _ mem)
    cases e : (branch (x :: rest) s).verdict with
    | valid text =>
      rw [firstOf_of_valid branch e]
      exact (hn rest _).of_tail.after here
    | leftover y after =>
      by_cases more : branches = []
      · subst more
        rw [firstOf_last_of_leftover branch e]
        have mem := forward branch List.mem_cons_self _ _ _ _ e
        exact ((hn (y :: after) _).of_mem fun _ => Site.mem_positions_trans mem).after here
      · rw [firstOf_of_not_valid branch (by simp [e]) more]
        exact later.after here
    | invalid =>
      by_cases more : branches = []
      · subst more
        rw [firstOf_last_of_invalid branch e]
        exact Attempt.told_of_trace rfl here
      · rw [firstOf_of_not_valid branch (by simp [e]) more]
        exact later.after here

/-- Where rounds and branches leave off has to be known to tell where the rest of the chain is
tried, so the two properties come together. -/
theorem closed_tells : Closed fun m => Forward m ∧ Tells m where
  ending := ⟨closed_forward.ending, tells_ending⟩
  anywhere := ⟨closed_forward.anywhere, fun _ _ => Attempt.told_quiet nofun⟩
  literal := fun content => ⟨closed_forward.literal content, tells_literal content⟩
  search := fun regex => ⟨closed_forward.search regex, tells_search regex⟩
  element := fun tag _ _ hc hn => ⟨closed_forward.element tag hc.1 hn.1, tells_element hc.2 hn.2⟩
  framed := fun hc => ⟨closed_forward.framed hc.1, fun pos s => hc.2 pos s.push⟩
  capture := fun name _ hc => ⟨closed_forward.capture name hc.1, tells_capture hc.2⟩
  wildcard := fun hn => ⟨closed_forward.wildcard hn.1, tells_wildcard hn.2⟩
  avoiding := fun hf => ⟨closed_forward.avoiding hf.1, tells_avoiding hf.2⟩
  avoidingUntil := fun hf hn =>
    ⟨closed_forward.avoidingUntil hf.1 hn.1, tells_avoidingUntil hf.2 hn.2⟩
  many := fun hc hn => ⟨closed_forward.many hc.1 hn.1, tells_many hc.1 hc.2 hn.2⟩
  either := by
    intro branches next hb hn
    refine ⟨closed_forward.either (fun b mem => (hb b mem).1) hn.1, ?_⟩
    rintro (_ | ⟨x, rest⟩) s
    · exact Attempt.told_quiet nofun
    · exact told_firstOf (fun b mem => (hb b mem).1) (fun b mem => (hb b mem).2) hn.2 x rest

end Matcher

namespace Pattern

/-- **What a match tells is so.** -/
theorem told_matcher (p : Pattern) (pos : Position) (s : Scope) : (p.matcher pos s).Told pos :=
  (matcher_of_closed Matcher.closed_tells p).2 pos s

end Pattern

end Stencil
