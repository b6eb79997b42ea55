import Stencil.Proofs.Matching.Verdict

/-!
# Matching — what is done to scopes

A match does two things to the scope that it is given: it binds names in its innermost frame, and it
pushes frames. A pattern tells which of them it can do (`Pattern.effects`), whatever it is matched
with: what none of them breaks holds of the scope that is returned (`Pattern.keeps_matcher`).
-/

namespace Stencil

/-- What can be done to a scope. -/
inductive Effect where
  /-- A text is bound to this name. -/
  | bind (name : String)
  /-- A frame is pushed. -/
  | push
  deriving DecidableEq, Repr

/-- A property of scopes is not broken by an effect. -/
def Effect.Spares (Q : Scope → Prop) : Effect → Prop
  | bind name => ∀ s value, Q s → Q (s.assign name value)
  | push => ∀ s, Q s → Q s.push

/-- A property that a scope has with what another one binds, if both have it. -/
def Scope.Mergeable (Q : Scope → Prop) : Prop :=
  ∀ s other, Q s → Q other → Q (s.mergeInnermost other)

namespace Kind

/-- What a node does to the scope by itself. -/
def effect? : Kind → Option Effect
  | capture name => some (.bind name)
  | scope => some .push
  | _ => none

/-- Whether what is captured in the child of a node is thrown away. -/
def forgets : Kind → Bool
  | many | wildcardExcept => true
  | _ => false

end Kind

namespace Pattern

/-- What a pattern can do to a scope, in the order of the template. -/
def effects : Pattern → List Effect
  | nil => []
  | node kind child next =>
    kind.effect?.toList ++ (if kind.forgets then [] else child.effects) ++ next.effects

/-- Induction over chains: a node comes with the branches of its child and with the rest of its
chain. -/
@[elab_as_elim]
theorem branch_induction {P : Pattern → Prop} (nil : P nil)
    (node : ∀ kind child next, (∀ b ∈ child :: child.branchesAfter, P b) → P next →
      P (node kind child next)) (p : Pattern) : P p := by
  suffices both : P p ∧ ∀ b ∈ p.branchesAfter, P b from both.1
  induction p with
  | nil => exact ⟨nil, by simp [branchesAfter]⟩
  | node kind child next ihc ihn =>
    refine ⟨node kind child next (List.forall_mem_cons.mpr ihc) ihn.1, fun b mem => ?_⟩
    cases kind with
    | option => exact List.forall_mem_cons.mpr ihn b (by simpa only [branchesAfter] using mem)
    | _ => exact ihn.2 b (by simpa only [branchesAfter] using mem)

/-- A branch is the end of the chain that it belongs to, so it has no more of what a chain takes
over from the rest of it. -/
theorem subset_of_mem_branches {α : Type} {f : Pattern → List α} {p b : Pattern}
    (rest : ∀ kind child next, f next ⊆ f (node kind child next))
    (mem : b ∈ p :: p.branchesAfter) : f b ⊆ f p := by
  induction p with
  | nil =>
    obtain rfl : b = nil := by simpa [branchesAfter] using mem
    exact List.Subset.refl _
  | node kind child next _ ih =>
    rcases List.mem_cons.mp mem with rfl | later
    · exact List.Subset.refl _
    · have mem : b ∈ next :: next.branchesAfter := by
        cases kind with
        | option => simpa only [branchesAfter] using later
        | _ => exact List.mem_cons_of_mem _ (by simpa only [branchesAfter] using later)
      exact List.Subset.trans (ih mem) (rest kind child next)

theorem effects_of_mem_branches {p b : Pattern} (mem : b ∈ p :: p.branchesAfter) :
    b.effects ⊆ p.effects :=
  subset_of_mem_branches (fun _ _ _ => List.subset_append_right _ _) mem

end Pattern

/-! ### Properties that are kept -/

namespace Matcher

/-- From a scope with a property, a scope with it is returned, whatever the verdict. -/
def Keeps (Q : Scope → Prop) (m : Matcher) : Prop := ∀ pos s, Q s → Q (m pos s).scope

/-- From one scope, a scope with a property is returned, whatever the verdict. -/
def Returns (Q : Scope → Prop) (s : Scope) (m : Matcher) : Prop := ∀ pos, Q (m pos s).scope

variable {Q : Scope → Prop} {child next forbidden : Matcher} {s : Scope}

theorem keeps_of_scope {m : Matcher} (h : ∀ pos s, (m pos s).scope = s) : Keeps Q m :=
  fun pos s held => (h pos s).symm ▸ held

theorem Keeps.returns {m : Matcher} (h : Keeps Q m) (held : Q s) : Returns Q s m :=
  fun pos => h pos s held

theorem scope_literal (content : String) (pos : Position) (s : Scope) :
    (literal content pos s).scope = s := by
  rcases pos with _ | ⟨_ | _, rest⟩
  · rfl
  · rfl
  · rfl

theorem scope_search (regex : Regex) (pos : Position) (s : Scope) :
    (search regex pos s).scope = s := by
  rw [search]
  split
  · rfl
  · rfl

theorem scope_ending (pos : Position) (s : Scope) : (ending pos s).scope = s := by
  cases pos with
  | nil => rfl
  | cons x rest => rfl

theorem scope_avoiding (pos : Position) (s : Scope) : (avoiding forbidden pos s).scope = s := by
  induction pos with
  | nil => rfl
  | cons x rest ih =>
    rw [avoiding]
    split
    · exact ih
    · rfl

theorem keeps_element {tag : String} (merge : Scope.Mergeable Q) (hc : Keeps Q child)
    (hn : Keeps Q next) : Keeps Q (element tag child next) := by
  rintro (_ | ⟨⟨place, name, children⟩ | ⟨place, content⟩, rest⟩) s held
  · exact held
  · have inner := hc children s held
    rw [element]
    split
    · dsimp only
      split
      · exact merge _ _ inner (hn rest _ inner)
      · exact inner
    · exact held
  · exact held

theorem keeps_framed (push : Effect.push.Spares Q) (hc : Keeps Q child) : Keeps Q (framed child) :=
  fun pos s held => hc pos s.push (push s held)

theorem keeps_capture {name : String} (bind : (Effect.bind name).Spares Q) (hc : Keeps Q child) :
    Keeps Q (capture name child) := by
  intro pos s held
  have inner := hc pos s held
  rw [capture]
  dsimp only
  split
  · exact bind _ _ inner
  · exact inner

theorem returns_atEnd (held : Q s) (hn : Returns Q s next) : Q (atEnd next s).scope := by
  rw [atEnd]
  split
  · exact hn []
  · exact held

theorem returns_wildcard (held : Q s) (hn : Returns Q s next) : Returns Q s (wildcard next) := by
  intro pos
  induction pos with
  | nil => exact returns_atEnd held hn
  | cons x rest ih =>
    rw [wildcard]
    split
    · exact ih
    · exact hn (x :: rest)

/-- A probe of the forbidden pattern leaves nothing in the scope. -/
theorem returns_avoidingUntil (held : Q s) (hn : Returns Q s next) :
    Returns Q s (avoidingUntil forbidden next) := by
  intro pos
  induction pos with
  | nil => exact returns_atEnd held hn
  | cons x rest ih =>
    rw [avoidingUntil]
    dsimp only
    split
    · exact hn (x :: rest)
    · split
      · exact ih
      · exact held

/-- The rounds of a repetition leave nothing in the scope. -/
theorem returns_many (held : Q s) (hn : Returns Q s next) : Returns Q s (many child next) := by
  intro pos
  rw [many]
  split
  · exact hn _
  · exact held

/-- The rest of the chain starts from the scope that the branch which is taken returns. -/
theorem returns_firstOf {branches : List Matcher} (held : Q s) (x : Site) (rest : List Site)
    (taken : ∀ b ∈ branches, Returns Q (b (x :: rest) s).scope next) :
    Q (firstOf next x rest s branches).scope := by
  induction branches with
  | nil => exact held
  | cons branch branches ih =>
    obtain ⟨here, others⟩ := List.forall_mem_cons.mp taken
    cases e : (branch (x :: rest) s).verdict with
    | valid text =>
      rw [firstOf_of_valid branch e]
      exact here rest
    | leftover y after =>
      by_cases more : branches = []
      · subst more
        rw [firstOf_last_of_leftover branch e]
        exact here _
      · rw [firstOf_of_not_valid branch (by simp [e]) more]
        exact ih others
    | invalid =>
      by_cases more : branches = []
      · subst more
        rw [firstOf_last_of_invalid branch e]
        exact held
      · rw [firstOf_of_not_valid branch (by simp [e]) more]
        exact ih others

theorem returns_either {branches : List Matcher} (held : Q s)
    (taken : ∀ b ∈ branches, ∀ pos, Returns Q (b pos s).scope next) :
    Returns Q s (either branches next) := by
  rintro (_ | ⟨x, rest⟩)
  · exact held
  · exact returns_firstOf held x rest fun b mem => taken b mem _

theorem keeps_either {branches : List Matcher} (hb : ∀ b ∈ branches, Keeps Q b)
    (hn : Keeps Q next) : Keeps Q (either branches next) := fun pos s held =>
  returns_either held (fun b mem pos => hn.returns (hb b mem pos s held)) pos

end Matcher

namespace Pattern

variable {Q : Scope → Prop}

/-- Only elements, scope operators, captures and alternatives hand on what their children do: a
match of any other node returns the scope that was given, or one that the rest of the chain returns
from it. -/
theorem returns_node {kind : Kind} {child next : Pattern} {s : Scope} (held : Q s)
    (later : Matcher.Returns Q s next.matcher)
    (element : ∀ tag, kind = .element tag →
      Matcher.Returns Q s (.element tag child.matcher next.matcher))
    (scope : kind = .scope → Matcher.Returns Q s (.framed child.matcher))
    (capture : ∀ name, kind = .capture name → Matcher.Returns Q s (.capture name child.matcher))
    (either : kind = .either →
      Matcher.Returns Q s (.either (child.matcher :: child.laterBranches) next.matcher)) :
    Matcher.Returns Q s (node kind child next).matcher := by
  cases kind with
  | element tag => rw [matcher]; exact element tag rfl
  | literal content =>
    rw [matcher]
    exact (Matcher.keeps_of_scope (Matcher.scope_literal content)).returns held
  | search regex =>
    rw [matcher]
    exact (Matcher.keeps_of_scope (Matcher.scope_search regex)).returns held
  | wildcard =>
    by_cases last : next = nil
    · subst last
      rw [matcher]
      exact fun _ => held
    · rw [matcher_wildcard last]
      exact Matcher.returns_wildcard held later
  | wildcardExcept =>
    by_cases free : child = nil
    · subst free
      cases next with
      | nil => rw [matcher]; exact fun _ => held
      | node => rw [matcher]; exact later
    · by_cases last : next = nil
      · subst last
        rw [matcher_avoiding free]
        exact (Matcher.keeps_of_scope Matcher.scope_avoiding).returns held
      · rw [matcher_avoidingUntil free last]
        exact Matcher.returns_avoidingUntil held later
  | many => rw [matcher]; exact Matcher.returns_many held later
  | scope => rw [matcher]; exact scope rfl
  | capture name => rw [matcher]; exact capture name rfl
  | either => rw [matcher]; exact either rfl
  | option =>
    rw [matcher]
    exact fun _ => held

theorem keeps_node {kind : Kind} {child next : Pattern} (later : Matcher.Keeps Q next.matcher)
    (element : ∀ tag, kind = .element tag →
      Matcher.Keeps Q (.element tag child.matcher next.matcher))
    (scope : kind = .scope → Matcher.Keeps Q (.framed child.matcher))
    (capture : ∀ name, kind = .capture name → Matcher.Keeps Q (.capture name child.matcher))
    (either : kind = .either → ∀ b ∈ child :: child.branchesAfter, Matcher.Keeps Q b.matcher) :
    Matcher.Keeps Q (node kind child next).matcher := by
  intro pos s held
  refine returns_node held (later.returns held) (fun tag eq => (element tag eq).returns held)
    (fun eq => (scope eq).returns held) (fun name eq => (capture name eq).returns held)
    (fun eq => ?_) pos
  rw [laterBranches_eq, ← List.map_cons]
  exact (Matcher.keeps_either (List.forall_mem_map.mpr (either eq)) later).returns held

/-- **What the effects of a pattern spare, a match keeps.** -/
theorem keeps_matcher (merge : Scope.Mergeable Q) (p : Pattern) :
    (∀ e ∈ p.effects, e.Spares Q) → Matcher.Keeps Q p.matcher := by
  induction p using branch_induction with
  | nil => exact fun _ => by rw [matcher]; exact Matcher.keeps_of_scope Matcher.scope_ending
  | node kind child next ihb ihn =>
    intro spares
    have later := ihn fun e mem => spares e (List.mem_append_right _ mem)
    have here : ∀ e, kind.effect? = some e → e.Spares Q := fun e own =>
      spares e (List.mem_append_left _ (List.mem_append_left _ (by simp [own])))
    -- a kind that hands on what its child does has the effects of all branches of the child
    have branches : kind.forgets = false → ∀ b ∈ child :: child.branchesAfter,
        Matcher.Keeps Q b.matcher := by
      intro kept b mem
      refine ihb b mem fun e low => spares e ?_
      rw [effects, kept]
      exact List.mem_append_left _ (List.mem_append_right _ (effects_of_mem_branches mem low))
    refine keeps_node later (fun tag eq => ?_) (fun eq => ?_) (fun name eq => ?_) (fun eq => ?_)
    · exact Matcher.keeps_element merge (branches (by rw [eq]; rfl) child List.mem_cons_self) later
    · exact Matcher.keeps_framed (here .push (by rw [eq]; rfl))
        (branches (by rw [eq]; rfl) child List.mem_cons_self)
    · exact Matcher.keeps_capture (here (.bind name) (by rw [eq]; rfl))
        (branches (by rw [eq]; rfl) child List.mem_cons_self)
    · exact branches (by rw [eq]; rfl)

end Pattern

end Stencil
