import Mathlib
import Stencil.Proofs.Document.Texts
import Stencil.Proofs.Matching.Captures
import Stencil.Template.Compile

/-!
# Matching — where captured texts come from

Whatever is bound in the scope that a match returns was bound in the scope from which it was
started, or captured on its way, also where attempts were given up (`Pattern.accounts_matcher`). So
every text that a run binds was told to the handler of its name, and stands in the document
(`Pattern.captured_texts_are_told`).
-/

namespace Stencil

/-! ### Bindings -/

namespace Scope

variable {s other : Scope} {name value n v : String}

/-- Some frame binds a name to a text. -/
def Holds (s : Scope) (name value : String) : Prop := ∃ f ∈ s.frames, f.get? name = some value

theorem not_holds_fresh : ¬ fresh.Holds name value := by
  rintro ⟨f, mem, bound⟩
  cases List.mem_singleton.mp mem
  cases bound

theorem holds_of_push (h : s.push.Holds name value) : s.Holds name value := by
  obtain ⟨f, mem, bound⟩ := h
  rcases List.mem_cons.mp mem with rfl | mem
  · cases bound
  · exact ⟨f, mem, bound⟩

theorem holds_of_assign (h : (s.assign n v).Holds name value) :
    name = n ∧ value = v ∨ s.Holds name value := by
  obtain ⟨f, mem, bound⟩ := h
  rcases List.mem_cons.mp mem with rfl | outside
  · rw [Scope.assign, NameMap.get?_insert] at bound
    by_cases same : name = n
    · rw [if_pos same, Option.some.injEq] at bound
      exact .inl ⟨same, bound.symm⟩
    · rw [if_neg same] at bound
      exact .inr ⟨_, List.mem_cons_self, bound⟩
  · exact .inr ⟨f, List.mem_cons_of_mem _ outside, bound⟩

theorem holds_of_mergeInnermost (h : (s.mergeInnermost other).Holds name value) :
    s.Holds name value ∨ other.Holds name value := by
  obtain ⟨f, mem, bound⟩ := h
  rcases List.mem_cons.mp mem with rfl | outside
  · rw [Scope.mergeInnermost, NameMap.get?_merge] at bound
    rcases Option.or_eq_some_iff.mp bound with late | ⟨-, early⟩
    · exact .inr ⟨_, List.mem_cons_self, late⟩
    · exact .inl ⟨_, List.mem_cons_self, early⟩
  · exact .inl ⟨f, List.mem_cons_of_mem _ outside, bound⟩

end Scope

namespace Happening

/-- Whether a name was bound to a text. -/
def Binds (name value : String) : Happening → Prop
  | captured n v _ => name = n ∧ value = v
  | ranOut _ => False

/-- A capture is of one of these names. -/
def NameIn (names : List String) : Happening → Prop
  | captured name _ _ => name ∈ names
  | ranOut _ => True

end Happening

/-- An answer accounts for the scope that it returns: only these names are captured on its way, and
whatever the scope holds comes from the scope at the start, or was captured on the way. -/
structure Attempt.Accounts (names : List String) (s : Scope) (a : Attempt) : Prop where
  named : ∀ x ∈ a.trace, x.NameIn names
  bound : ∀ name value, a.scope.Holds name value →
    s.Holds name value ∨ ∃ x ∈ a.trace, x.Binds name value

namespace Attempt

variable {names : List String} {s : Scope} {a b : Attempt} {v : Verdict} {trace : List Happening}

theorem accounts_given_up (h : ∀ x ∈ trace, x.NameIn names) :
    (⟨v, s, trace⟩ : Attempt).Accounts names s := ⟨h, fun _ _ held => .inl held⟩

theorem accounts_quiet : (quiet v s).Accounts names s := accounts_given_up nofun

theorem Accounts.after (h : a.Accounts names s) (before : ∀ x ∈ trace, x.NameIn names) :
    (a.after trace).Accounts names s where
  named x mem := (List.mem_append.mp mem).elim (before x) (h.named x)
  bound name value held :=
    (h.bound name value held).imp_right (Exists.imp fun _ => And.imp_left (List.mem_append_right _))

/-- An answer that starts from the scope of another one accounts for what both did. -/
theorem Accounts.andThen (h : a.Accounts names s) (hb : b.Accounts names a.scope) :
    (b.after a.trace).Accounts names s where
  named := (hb.after h.named).named
  bound name value held := by
    rcases (hb.after h.named).bound name value held with earlier | now
    · rcases h.bound name value earlier with start | ⟨x, mem, binds⟩
      · exact .inl start
      · exact .inr ⟨x, List.mem_append_left _ mem, binds⟩
    · exact .inr now

end Attempt

/-! ### What every matcher accounts for -/

namespace Matcher

/-- A matcher accounts for the scopes that it returns. -/
def Accounts (names : List String) (m : Matcher) : Prop := ∀ pos s, (m pos s).Accounts names s

variable {names : List String} {child next forbidden : Matcher} {s : Scope}

theorem accounts_ending : Accounts names ending := by
  rintro (_ | ⟨x, rest⟩) s
  · exact Attempt.accounts_quiet
  · refine Attempt.accounts_given_up fun y mem => ?_
    cases List.mem_singleton.mp mem
    trivial

theorem accounts_literal (content : String) : Accounts names (literal content) := by
  rintro (_ | ⟨_ | _, rest⟩) s
  · exact Attempt.accounts_quiet
  · exact Attempt.accounts_quiet
  · exact Attempt.accounts_quiet

theorem accounts_search (regex : Regex) : Accounts names (search regex) := by
  intro pos s
  rw [search]
  split
  · exact Attempt.accounts_quiet
  · exact Attempt.accounts_quiet

/-- What the siblings of an element bind comes into the scope of its children. -/
theorem accounts_element {tag : String} (hc : Accounts names child) (hn : Accounts names next) :
    Accounts names (element tag child next) := by
  rintro (_ | ⟨⟨place, name, children⟩ | ⟨place, content⟩, rest⟩) s
  · exact Attempt.accounts_quiet
  · have inner := hc children s
    have both := inner.andThen (hn rest (child children s).scope)
    rw [element]
    split
    · dsimp only
      split
      · refine ⟨both.named, fun name value held => ?_⟩
        rcases Scope.holds_of_mergeInnermost held with low | late
        · exact (inner.bound name value low).imp_right
            (Exists.imp fun _ => And.imp_left (List.mem_append_left _))
        · exact both.bound name value late
      · exact inner
    · exact Attempt.accounts_quiet
  · exact Attempt.accounts_quiet

theorem accounts_capture {name : String} (mem : name ∈ names) (hc : Accounts names child) :
    Accounts names (capture name child) := by
  intro pos s
  have inner := hc pos s
  rw [capture]
  dsimp only
  split
  · refine ⟨fun x here => ?_, fun n v held => ?_⟩
    · rcases List.mem_append.mp here with before | now
      · exact inner.named x before
      · cases List.mem_singleton.mp now
        exact mem
    · rcases Scope.holds_of_assign held with now | before
      · exact .inr ⟨_, List.mem_append_right _ List.mem_cons_self, now⟩
      · exact (inner.bound n v before).imp_right
          (Exists.imp fun _ => And.imp_left (List.mem_append_left _))
  · exact inner

/-! ### Wildcards -/

theorem accounts_atEnd (hn : Accounts names next) : (atEnd next s).Accounts names s := by
  have last := hn [] s
  rw [atEnd]
  split
  · exact ⟨last.named, last.bound⟩
  · exact Attempt.accounts_given_up last.named

theorem accounts_wildcard (hn : Accounts names next) : Accounts names (wildcard next) := by
  intro pos s
  induction pos with
  | nil => exact accounts_atEnd hn
  | cons x rest ih =>
    rw [wildcard]
    split
    · exact ih.after (hn (x :: rest) s).named
    · exact hn (x :: rest) s

theorem accounts_avoiding (hf : Accounts names forbidden) : Accounts names (avoiding forbidden) := by
  intro pos s
  induction pos with
  | nil => exact accounts_atEnd accounts_ending
  | cons x rest ih =>
    rw [avoiding]
    split
    · exact ih.after (hf (x :: rest) s).named
    · exact Attempt.accounts_given_up (hf (x :: rest) s).named

theorem accounts_avoidingUntil (hf : Accounts names forbidden) (hn : Accounts names next) :
    Accounts names (avoidingUntil forbidden next) := by
  intro pos s
  induction pos with
  | nil => exact accounts_atEnd hn
  | cons x rest ih =>
    have tried : ∀ y ∈ (next (x :: rest) s).trace ++ (forbidden (x :: rest) s).trace,
        y.NameIn names := fun y mem =>
      (List.mem_append.mp mem).elim ((hn (x :: rest) s).named y) ((hf (x :: rest) s).named y)
    rw [avoidingUntil]
    dsimp only
    split
    · exact hn (x :: rest) s
    · split
      · exact ih.after tried
      · exact Attempt.accounts_given_up tried

/-! ### Repetition and alternatives -/

theorem named_rounds (hc : Accounts names child) (matched : Bool) (pos : Position) :
    ∀ x ∈ (rounds child matched pos s).trace, x.NameIn names := by
  fun_induction rounds child matched pos s with
  | case1 matched pos round t rest left shorter later ih =>
    exact fun x mem => (List.mem_append.mp mem).elim ((hc pos s.push).named x) (ih x)
  | case2 matched pos round => exact (hc pos s.push).named
  | case3 matched pos round => exact (hc pos s.push).named
  | case4 matched pos round => exact (hc pos s.push).named

/-- The scopes of the rounds are thrown away, so what comes after the rounds starts from the scope
from before. -/
theorem accounts_many (hc : Accounts names child) (hn : Accounts names next) :
    Accounts names (many child next) := by
  intro pos s
  have all := named_rounds (s := s) hc false pos
  rw [many]
  split
  · exact (hn _ s).after all
  · exact Attempt.accounts_given_up all

theorem accounts_firstOf {branches : List Matcher} (hb : ∀ b ∈ branches, Accounts names b)
    (hn : Accounts names next) (x : Site) (rest : List Site) :
    (firstOf next x rest s branches).Accounts names s := by
  induction branches with
  | nil => exact Attempt.accounts_quiet
  | cons branch branches ih =>
    have here := hb branch List.mem_cons_self (x :: rest) s
    have later := ih fun b mem => hb b (List.mem_cons_of_mem _ mem)
    cases e : (branch (x :: rest) s).verdict with
    | valid text =>
      rw [firstOf_of_valid branch e]
      exact here.andThen (hn rest _)
    | leftover y after =>
      by_cases more : branches = []
      · subst more
        rw [firstOf_last_of_leftover branch e]
        exact here.andThen (hn (y :: after) _)
      · rw [firstOf_of_not_valid branch (by simp [e]) more]
        exact later.after here.named
    | invalid =>
      by_cases more : branches = []
      · subst more
        rw [firstOf_last_of_invalid branch e]
        exact Attempt.accounts_given_up here.named
      · rw [firstOf_of_not_valid branch (by simp [e]) more]
        exact later.after here.named

theorem closedOver_accounts (names : List String) : ClosedOver names (Accounts names) where
  ending := accounts_ending
  anywhere := fun _ _ => Attempt.accounts_quiet
  literal := accounts_literal
  search := accounts_search
  element := fun _ => accounts_element
  framed := fun hc pos s =>
    ⟨(hc pos s.push).named, fun name value held =>
      ((hc pos s.push).bound name value held).imp_left Scope.holds_of_push⟩
  wildcard := accounts_wildcard
  avoiding := accounts_avoiding
  avoidingUntil := accounts_avoidingUntil
  many := accounts_many
  either := by
    rintro branches next hb hn (_ | ⟨x, rest⟩) s
    · exact Attempt.accounts_quiet
    · exact accounts_firstOf hb hn x rest
  capture := accounts_capture

end Matcher

namespace Pattern

theorem mem_captureNames {p : Pattern} {name : String} : name ∈ p.captureNames ↔ name ∈ p.captures :=
  List.mem_eraseDups

/-- **A match accounts for what it binds**: the scope that it returns holds what the scope at its
start held, and what was captured on its way. -/
theorem accounts_matcher (p : Pattern) (pos : Position) (s : Scope) :
    (p.matcher pos s).Accounts p.captureNames s :=
  matcher_of_closedOver (Matcher.closedOver_accounts p.captureNames) p
    (fun _ => mem_captureNames.mpr) pos s

end Pattern

/-! ### What handlers are told -/

namespace Attempt

variable {names : List String} {a : Attempt} {α : Type}

theorem Accounts.name_of_mem {s : Scope} (h : a.Accounts names s) {c : Captured}
    (mem : c ∈ a.captures) : c.name ∈ names := by
  obtain ⟨x, here, eq⟩ := List.mem_filterMap.mp mem
  cases x with
  | captured name value scope =>
    cases eq
    exact h.named _ here
  | ranOut site => cases eq

/-- A text that is bound after a match from a scope that binds nothing was captured. -/
theorem Accounts.captured (h : a.Accounts names .fresh) {name value : String}
    (held : a.scope.Holds name value) : ∃ c ∈ a.captures, c.name = name ∧ c.value = value := by
  obtain ⟨x, mem, binds⟩ := (h.bound name value held).resolve_left Scope.not_holds_fresh
  cases x with
  | captured n v scope =>
    exact ⟨⟨n, v, scope⟩, List.mem_filterMap.mpr ⟨_, mem, rfl⟩, binds.1.symm, binds.2.symm⟩
  | ranOut site => exact binds.elim

theorem Told.fits_of_mem {row : Position} (told : a.Told row) {c : Captured}
    (mem : c ∈ a.captures) :
    c.scope.innermost.get? c.name = some c.value ∧ Site.Shows row c.value := by
  obtain ⟨x, here, eq⟩ := List.mem_filterMap.mp mem
  cases x with
  | captured name value scope =>
    cases eq
    exact told.trace _ here
  | ranOut site => cases eq

/-- Handlers for all captures are called once for each of them, in order. -/
theorem forall₂_dispatch (h : Dispatcher α) (all : ∀ c ∈ a.captures, h.handles c.name) :
    List.Forall₂ (fun c answer => h.dispatch c.name c.scope = some answer) a.captures
      (a.dispatch h) := by
  rw [dispatch_eq]
  revert all
  generalize a.captures = captures
  intro all
  induction captures with
  | nil => exact .nil
  | cons c later ih =>
    have behind := ih fun c mem => all c (List.mem_cons_of_mem _ mem)
    have held : (h.dispatch c.name c.scope).isSome :=
      (h.isSome_dispatch c.name c.scope).trans (all c List.mem_cons_self)
    obtain ⟨answer, here⟩ := Option.isSome_iff_exists.mp held
    rw [List.filterMap_cons, here]
    exact .cons here behind

end Attempt

namespace Document

theorem shows_of_outline {d : Document} {value : String} (h : Site.Shows d.outline value) :
    d.Shows value := by
  rcases h with empty | ⟨t, after, mem, here⟩
  · exact .inl empty
  · exact shows_of_mem mem here

end Document

namespace Pattern

/-- **Where captured texts come from.** If there are handlers for all names that a pattern captures,
they are called once for each capture, in order. Each call is for one of these names, and sees a
scope whose innermost frame binds the name to the text that was captured; this text is empty, or the
content of a text of the document, or a longest run of texts and line breaks there. And whatever a
frame of the scope that a run returns binds was reported by one of these calls, for the same name
with the same text. -/
theorem captured_texts_are_told (p : Pattern) (d : Document) {α : Type} (h : Dispatcher α)
    (all : ∀ name ∈ p.captureNames, h.handles name) :
    let a := p.run d
    List.Forall₂ (fun c answer => h.dispatch c.name c.scope = some answer) a.captures
        (a.dispatch h) ∧
      (∀ c ∈ a.captures, c.name ∈ p.captureNames ∧
        c.scope.innermost.get? c.name = some c.value ∧ d.Shows c.value) ∧
      ∀ f ∈ a.scope.frames, ∀ name value, f.get? name = some value →
        name ∈ p.captureNames ∧ ∃ c ∈ a.captures, c.name = name ∧ c.value = value := by
  intro a
  have accounts : a.Accounts p.captureNames .fresh := p.accounts_matcher d.outline .fresh
  have told : a.Told d.outline := p.told_matcher d.outline .fresh
  refine ⟨a.forall₂_dispatch h fun c mem => all _ (accounts.name_of_mem mem), fun c mem => ?_,
    fun f mem name value bound => ?_⟩
  · obtain ⟨seen, shown⟩ := told.fits_of_mem mem
    exact ⟨accounts.name_of_mem mem, seen, Document.shows_of_outline shown⟩
  · obtain ⟨c, mem, same, eq⟩ := accounts.captured ⟨f, mem, bound⟩
    exact ⟨same ▸ accounts.name_of_mem mem, c, mem, same, eq⟩

/-- A text that goes over two lines, with an empty line between them, is told as one. -/
theorem captured_texts_are_told_lines :
    ∃ (p : Pattern) (d : Document) (h : Dispatcher (Option String)),
      Document.read "<p>a<br> <br>b</p>" .lenient = .ok d ∧
      (∀ name ∈ p.captureNames, h.handles name) ∧ (p.run d).dispatch h = [some "a\n\nb"] ∧
      (p.run d).scope.get? "x" = some "a\n\nb" ∧
      ∀ c ∈ (p.run d).captures, c.name = "x" ∧ d.Shows c.value := by
  refine ⟨node (.element "html") (node (.element "body") (node (.element "p") (node (.capture "x")
      (node (.search ⟨"b", _, by cbv⟩) nil nil) nil) nil) nil) nil,
    ⟨[.element 0 "html" [] [.element 1 "body" [] [.element 2 "p" [] [.text 3 "a",
      .element 3 "br" [] [], .text 3 " ", .element 3 "br" [] [], .text 3 "b"]]]]⟩,
    Dispatcher.empty.register "x" (·.get? "x"), by cbv, by decide, by cbv, by cbv, fun c mem => ?_⟩
  have told := (captured_texts_are_told _ _ (Dispatcher.empty.register "x" (·.get? "x"))
    (by decide)).2.1 c mem
  exact ⟨List.mem_singleton.mp told.1, told.2.2⟩

end Pattern

end Stencil
