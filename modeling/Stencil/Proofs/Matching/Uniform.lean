import Stencil.Matching.Run
import Stencil.Proofs.Capture.Scope
import Stencil.Proofs.Matching.Closed

/-!
# Matching — what is bound does not depend on the scope

A match started in a scope is the match started in a fresh one, put on top of that scope
(`Pattern.matcher_onto`): its verdict is the same, on its way the same things happen in the same
order, and it binds the same texts to the same names. This is kept by every way of putting matchers
together (`Matcher.closed_uniform`).
-/

namespace Stencil

/-! ### Answers on top of a scope -/

/-- A happening that shows its scope on top of another one. -/
def Happening.onto (s : Scope) : Happening → Happening
  | captured name value scope => captured name value (scope.onto s)
  | ranOut site => ranOut site

namespace Attempt

/-- An answer whose scopes are on top of another one. -/
def onto (a : Attempt) (s : Scope) : Attempt :=
  ⟨a.verdict, a.scope.onto s, a.trace.map (·.onto s)⟩

variable {a : Attempt} {s : Scope} {v : Verdict} {trace : List Happening}

@[simp] theorem onto_verdict (a : Attempt) (s : Scope) : (a.onto s).verdict = a.verdict := rfl
@[simp] theorem onto_scope (a : Attempt) (s : Scope) : (a.onto s).scope = a.scope.onto s := rfl

@[simp] theorem after_onto (trace : List Happening) (a : Attempt) (s : Scope) :
    (a.after trace).onto s = (a.onto s).after (trace.map (·.onto s)) := by
  rw [after, onto, List.map_append]
  rfl

end Attempt

namespace Matcher

/-- The answers of a matcher on top of a scope are those of it without this scope, put on top of
it. -/
def Uniform (m : Matcher) : Prop := ∀ pos top s, m pos (top.onto s) = (m pos top).onto s

variable {child next forbidden : Matcher} {top s : Scope}

/-- A uniform matcher starts from any scope as from a fresh one. -/
theorem Uniform.eq_fresh {m : Matcher} (h : Uniform m) (pos : Position) (s : Scope) :
    m pos s = (m pos .fresh).onto s := h pos .fresh s

theorem Uniform.verdict_eq {m : Matcher} (h : Uniform m) (pos : Position) (top s : Scope) :
    (m pos (top.onto s)).verdict = (m pos top).verdict := by
  rw [h pos top s]
  rfl

/-! ### Elements and captures -/

/-- What the siblings of an element bind is merged into what its children return as if it had been
bound in a fresh scope. -/
theorem Uniform.mergeInnermost_eq (hn : Uniform next) (rest : Position) (s : Scope) :
    s.mergeInnermost (next rest s).scope = s.mergeInnermost (next rest .fresh).scope := by
  rw [hn.eq_fresh rest s, Attempt.onto_scope, Scope.mergeInnermost_self_onto]

theorem uniform_element {tag : String} (hc : Uniform child) (hn : Uniform next) :
    Uniform (element tag child next) := by
  rintro (_ | ⟨⟨place, name, children⟩ | ⟨place, content⟩, rest⟩) top s
  · rfl
  · by_cases same : name = tag
    · simp only [element, if_pos same, hc.verdict_eq]
      by_cases valid : (child children top).verdict.isValid
      · rw [if_pos valid, if_pos valid, hc children top s, Attempt.onto_scope,
          hn.mergeInnermost_eq, hn.mergeInnermost_eq, ← Scope.mergeInnermost_onto, hn rest _ s]
        simp [Attempt.onto]
      · rw [if_neg valid, if_neg valid, hc children top s]
    · rw [element, element, if_neg same, if_neg same]
      rfl
  · rfl

theorem uniform_capture {name : String} (hc : Uniform child) : Uniform (capture name child) := by
  intro pos top s
  rw [capture, capture, hc pos top s]
  cases e : (child pos top).verdict with
  | valid text =>
    simp only [Attempt.onto_verdict, Attempt.onto_scope, e, ← Scope.assign_onto]
    simp [Attempt.onto, Happening.onto]
  | leftover x rest => simp only [Attempt.onto_verdict, e]
  | invalid => simp only [Attempt.onto_verdict, e]

/-! ### Wildcards -/

theorem atEnd_onto (hn : Uniform next) (top s : Scope) :
    atEnd next (top.onto s) = (atEnd next top).onto s := by
  simp only [atEnd, hn.verdict_eq]
  by_cases valid : (next [] top).verdict.isValid
  · rw [if_pos valid, if_pos valid, hn [] top s]
    rfl
  · rw [if_neg valid, if_neg valid, hn [] top s]
    rfl

theorem uniform_wildcard (hn : Uniform next) : Uniform (wildcard next) := by
  intro pos top s
  induction pos with
  | nil => exact atEnd_onto hn top s
  | cons x rest ih =>
    simp only [wildcard, hn.verdict_eq]
    by_cases invalid : (next (x :: rest) top).verdict.isInvalid
    · rw [if_pos invalid, if_pos invalid, ih, hn (x :: rest) top s, Attempt.after_onto]
      rfl
    · rw [if_neg invalid, if_neg invalid, hn (x :: rest) top s]

theorem uniform_ending : Uniform ending := by
  rintro (_ | ⟨x, rest⟩) top s
  · rfl
  · rfl

theorem uniform_avoiding (hf : Uniform forbidden) : Uniform (avoiding forbidden) := by
  intro pos top s
  induction pos with
  | nil => exact atEnd_onto uniform_ending top s
  | cons x rest ih =>
    simp only [avoiding, hf.verdict_eq]
    by_cases invalid : (forbidden (x :: rest) top).verdict.isInvalid
    · rw [if_pos invalid, if_pos invalid, ih, hf (x :: rest) top s, Attempt.after_onto]
      rfl
    · rw [if_neg invalid, if_neg invalid, hf (x :: rest) top s]
      rfl

theorem uniform_avoidingUntil (hf : Uniform forbidden) (hn : Uniform next) :
    Uniform (avoidingUntil forbidden next) := by
  intro pos top s
  induction pos with
  | nil => exact atEnd_onto hn top s
  | cons x rest ih =>
    simp only [avoidingUntil, hn.verdict_eq, hf.verdict_eq]
    by_cases valid : (next (x :: rest) top).verdict.isValid
    · rw [if_pos valid, if_pos valid, hn (x :: rest) top s]
    · rw [if_neg valid, if_neg valid, hn (x :: rest) top s, hf (x :: rest) top s]
      by_cases invalid : (forbidden (x :: rest) top).verdict.isInvalid
      · rw [if_pos invalid, if_pos invalid, ih, Attempt.after_onto, List.map_append]
        rfl
      · rw [if_neg invalid, if_neg invalid]
        simp [Attempt.onto]

/-! ### Repetition -/

/-- Rounds whose scopes are on top of another one. -/
def Rounds.onto (all : Rounds) (s : Scope) : Rounds :=
  { all with trace := all.trace.map (·.onto s) }

theorem rounds_onto (hc : Uniform child) (matched : Bool) (pos : Position) (top s : Scope) :
    rounds child matched pos (top.onto s) = (rounds child matched pos top).onto s := by
  have fresh : ∀ pos, child pos (top.onto s).push = (child pos top.push).onto s :=
    fun pos => hc pos top.push s
  fun_induction rounds child matched pos top with
  | case1 matched pos round x rest left shorter later ih =>
    rw [rounds_of_shorter (by rw [fresh]; exact left) shorter, ih, fresh, Rounds.onto, Rounds.onto,
      List.map_append]
    rfl
  | case2 matched pos round x rest left longer =>
    rw [rounds_of_not_shorter (by rw [fresh]; exact left) longer, fresh]
    rfl
  | case3 matched pos round text valid =>
    rw [rounds_of_valid (by rw [fresh]; exact valid), fresh]
    rfl
  | case4 matched pos round invalid =>
    rw [rounds_of_invalid (by rw [fresh]; exact invalid), fresh]
    rfl

theorem uniform_many (hc : Uniform child) (hn : Uniform next) : Uniform (many child next) := by
  intro pos top s
  have all := rounds_onto hc false pos top s
  have matched_eq : (rounds child false pos (top.onto s)).matched =
      (rounds child false pos top).matched := by rw [all]; rfl
  simp only [many, matched_eq]
  by_cases matched : (rounds child false pos top).matched
  · rw [if_pos matched, if_pos matched, all, hn, Attempt.after_onto]
    rfl
  · rw [if_neg matched, if_neg matched, all]
    rfl

/-! ### Alternatives -/

theorem firstOf_onto {branches : List Matcher} (hb : ∀ b ∈ branches, Uniform b)
    (hn : Uniform next) (x : Site) (rest : List Site) (top s : Scope) :
    firstOf next x rest (top.onto s) branches = (firstOf next x rest top branches).onto s := by
  induction branches with
  | nil => rfl
  | cons branch branches ih =>
    have here := hb branch List.mem_cons_self (x :: rest) top s
    have later := ih fun b mem => hb b (List.mem_cons_of_mem _ mem)
    cases e : (branch (x :: rest) top).verdict with
    | valid text =>
      rw [firstOf_of_valid branch e, firstOf_of_valid branch (by rw [here]; exact e), here,
        Attempt.onto_scope, hn, Attempt.after_onto]
      rfl
    | leftover y after =>
      by_cases more : branches = []
      · subst more
        rw [firstOf_last_of_leftover branch e,
          firstOf_last_of_leftover branch (by rw [here]; exact e), here, Attempt.onto_scope, hn,
          Attempt.after_onto]
        rfl
      · rw [firstOf_of_not_valid branch (by simp [here, e]) more,
          firstOf_of_not_valid branch (by simp [e]) more, here, later,
          Attempt.after_onto]
        rfl
    | invalid =>
      by_cases more : branches = []
      · subst more
        rw [firstOf_last_of_invalid branch e,
          firstOf_last_of_invalid branch (by rw [here]; exact e), here]
        rfl
      · rw [firstOf_of_not_valid branch (by simp [here, e]) more,
          firstOf_of_not_valid branch (by simp [e]) more, here, later,
          Attempt.after_onto]
        rfl

theorem closed_uniform : Closed Uniform where
  ending := uniform_ending
  anywhere := fun _ _ _ => rfl
  literal := by
    rintro content (_ | ⟨_ | _, rest⟩) top s
    · rfl
    · rfl
    · rfl
  search := by
    intro regex pos top s
    rw [search, search]
    split
    · rfl
    · rfl
  element := fun _ => uniform_element
  framed := fun hc pos top s => hc pos top.push s
  capture := fun _ => uniform_capture
  wildcard := uniform_wildcard
  avoiding := uniform_avoiding
  avoidingUntil := uniform_avoidingUntil
  many := uniform_many
  either := by
    rintro branches next hb hn (_ | ⟨x, rest⟩) top s
    · rfl
    · exact firstOf_onto hb hn x rest top s

end Matcher

namespace Pattern

/-- **A match from a scope is the match from a fresh one, on top of that scope.** -/
theorem matcher_onto (p : Pattern) (pos : Position) (s : Scope) :
    p.matcher pos s = (p.matcher pos .fresh).onto s :=
  (matcher_of_closed Matcher.closed_uniform p).eq_fresh pos s

end Pattern

end Stencil
