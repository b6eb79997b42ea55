import Mathlib
import Stencil.Matching.Run
import Stencil.Proofs.Matching.Step
import Stencil.Template.Compile

/-!
# Matching — what is never matched

A node that ignores the rest of its chain is reported together with the node behind it. What stands
behind it can be taken away, up to the end of its branch, and no run tells the difference
(`Pattern.ignored_never_matched`). An alternative finds the branches behind it all the same, so that
more than its branch cannot be taken away (`Pattern.branch_matched_behind_text`).
-/

namespace Stencil

namespace Pattern

/-! ### Patterns without what is reported -/

/-- The rest of a chain from the first end of a branch on. -/
def fromEnd : Pattern → Pattern
  | nil => nil
  | node kind child next => if kind = .option then node kind child next else next.fromEnd

/-- A pattern without what stands behind a node that ignores it. -/
structure Shortening where
  /-- The kinds of the node and of the one right behind it. -/
  reported : Kind × Kind
  /-- The pattern without everything that stands behind the node in its chain. -/
  whole : Pattern
  /-- The pattern without what stands behind the node up to the end of its branch. -/
  inBranch : Pattern
  /-- Whether a branch of the alternative around the node ends behind it. -/
  endsBranch : Bool

namespace Shortening

/-- A shortening of the child of a node. -/
def below (kind : Kind) (next : Pattern) (s : Shortening) : Shortening :=
  { s with whole := node kind s.whole next, inBranch := node kind s.inBranch next }

/-- A shortening of the rest of a chain behind a node. -/
def behind (kind : Kind) (child : Pattern) (s : Shortening) : Shortening :=
  { s with whole := node kind child s.whole, inBranch := node kind child s.inBranch }

end Shortening

/-- The pattern without what stands behind its first node, if this is reported. The branches of an
alternative stand in one chain, `branched`. -/
def shortenedHere (branched : Bool) (kind : Kind) (child next : Pattern) : List Shortening :=
  match next.kind? with
  | none => []
  | some after =>
    if kind.ignoresNext then
      [{ reported := (kind, after)
         whole := node kind child nil
         inBranch := node kind child (if branched then next.fromEnd else nil)
         endsBranch := branched && next.fromEnd ≠ nil }]
    else []

/-- The pattern without what is reported, for each report in their order. -/
def shortenings (branched : Bool) : Pattern → List Shortening
  | nil => []
  | node kind child next =>
    shortenedHere branched kind child next ++
      (child.shortenings (kind = .either)).map (·.below kind next) ++
      (next.shortenings branched).map (·.behind kind child)

/-- There is a shortening for each report. -/
theorem map_reported_shortenings (p : Pattern) :
    ∀ branched, (p.shortenings branched).map (·.reported) = p.ignored := by
  induction p with
  | nil => exact fun _ => rfl
  | node kind child next ihc ihn =>
    intro branched
    have low := ihc (kind = .either)
    have late := ihn branched
    simp only [shortenings, ignored, List.map_append, List.map_map]
    rw [← low, ← late]
    refine congrArg₂ (· ++ ·) (congrArg (· ++ _) ?_) rfl
    rw [shortenedHere]
    cases next.kind? with
    | none => rfl
    | some after =>
      dsimp only
      split
      · rfl
      · rfl

/-! ### What a matcher goes by -/

/-- A pattern that can stand in for another one: it is matched in the same way, and so are the
branches behind its first one, where the pattern is that of an alternative. -/
structure StandsIn (branched : Bool) (p q : Pattern) : Prop where
  nonempty : q ≠ nil
  matched : q.matcher = p.matcher
  branches : branched → q.laterBranches = p.laterBranches

theorem laterBranches_node (kind : Kind) (child next : Pattern) :
    (node kind child next).laterBranches =
      if kind = .option then next.matcher :: next.laterBranches else next.laterBranches := by
  cases kind with
  | option => rw [laterBranches, if_pos rfl]
  | _ => simp only [laterBranches, reduceCtorEq, if_false]

/-- The branches behind the first one start at the ends of branches. -/
theorem laterBranches_fromEnd (p : Pattern) : p.fromEnd.laterBranches = p.laterBranches := by
  induction p with
  | nil => rfl
  | node kind child next _ ih =>
    rw [fromEnd]
    by_cases ends : kind = .option
    · rw [if_pos ends]
    · rw [if_neg ends, ih, laterBranches_node, if_neg ends]

/-- A node that ignores the rest of its chain is matched in the same way, whatever the rest is. -/
theorem matcher_of_ignoresNext {kind : Kind} (h : kind.ignoresNext) (child next next' : Pattern) :
    (node kind child next').matcher = (node kind child next).matcher := by
  cases kind with
  | literal content | search regex | scope | capture name => rw [matcher, matcher]
  | _ => cases h

variable {branched : Bool} {kind : Kind} {child child' next next' : Pattern}

/-- What stands behind a node can be replaced by what ends the same branches, if the node ignores
it. -/
theorem standsIn_of_ignoresNext (h : kind.ignoresNext)
    (same : branched → next'.laterBranches = next.laterBranches) :
    StandsIn branched (node kind child next) (node kind child next') := by
  refine ⟨nofun, matcher_of_ignoresNext h child next next', fun inEither => ?_⟩
  have noEnd : kind ≠ .option := by
    rintro rfl
    cases h
  rw [laterBranches_node, laterBranches_node, if_neg noEnd, if_neg noEnd, same inEither]

/-- The child of a node can be replaced. Only an alternative looks for branches in it. -/
theorem StandsIn.below (h : StandsIn (kind = .either) child child') (given : child ≠ nil)
    (next : Pattern) : StandsIn branched (node kind child next) (node kind child' next) := by
  refine ⟨nofun, ?_, fun _ => by rw [laterBranches_node, laterBranches_node]⟩
  cases kind with
  | either => rw [matcher, matcher, h.matched, h.branches (decide_eq_true rfl)]
  | wildcardExcept =>
    by_cases last : next = nil
    · rw [last, matcher_avoiding h.nonempty, matcher_avoiding given, h.matched]
    · rw [matcher_avoidingUntil h.nonempty last, matcher_avoidingUntil given last, h.matched]
  | wildcard =>
    by_cases last : next = nil
    · rw [last, matcher, matcher]
    · rw [matcher_wildcard last, matcher_wildcard last]
  | element tag | many | scope | capture name => rw [matcher, matcher, h.matched]
  | literal content | search regex | option => rw [matcher, matcher]

/-- The rest of a chain can be replaced. -/
theorem StandsIn.behind (h : StandsIn branched next next') (given : next ≠ nil) (kind : Kind)
    (child : Pattern) : StandsIn branched (node kind child next) (node kind child next') := by
  refine ⟨nofun, ?_, fun inEither => ?_⟩
  · cases kind with
    | wildcard => rw [matcher_wildcard h.nonempty, matcher_wildcard given, h.matched]
    | wildcardExcept =>
      by_cases free : child = nil
      · rw [free, matcher_unguarded h.nonempty, matcher_unguarded given, h.matched]
      · rw [matcher_avoidingUntil free h.nonempty, matcher_avoidingUntil free given, h.matched]
    | element tag | many | either => rw [matcher, matcher, h.matched]
    | literal content | search regex | scope | capture name | option => rw [matcher, matcher]
  · rw [laterBranches_node, laterBranches_node, h.matched, h.branches inEither]

/-! ### Shortenings -/

theorem standsIn_of_mem_here {s : Shortening} (mem : s ∈ shortenedHere branched kind child next) :
    StandsIn branched (node kind child next) s.inBranch ∧
      (s.endsBranch = false → StandsIn branched (node kind child next) s.whole) := by
  rw [shortenedHere] at mem
  cases rest : next.kind? with
  | none => simp [rest] at mem
  | some after =>
    by_cases ignores : kind.ignoresNext
    · obtain rfl : s = _ := by simpa [rest, ignores] using mem
      refine ⟨standsIn_of_ignoresNext ignores fun inEither => ?_, fun noEnd => ?_⟩
      · rw [if_pos inEither, laterBranches_fromEnd]
      · refine standsIn_of_ignoresNext ignores fun inEither => ?_
        -- no branch ends behind the node, so there is none to be found there
        have none : next.fromEnd = nil := by simpa [inEither] using noEnd
        rw [← laterBranches_fromEnd next, none]
    · simp [rest, ignores] at mem

/-- **What is reported as never matched can be taken away in its branch**, and what stands behind it
in its chain too, if no branch ends there. -/
theorem standsIn_of_mem_shortenings (p : Pattern) : ∀ branched, ∀ s ∈ p.shortenings branched,
    StandsIn branched p s.inBranch ∧ (s.endsBranch = false → StandsIn branched p s.whole) := by
  induction p with
  | nil => exact fun _ _ mem => absurd mem List.not_mem_nil
  | node kind child next ihc ihn =>
    intro branched s mem
    rw [shortenings, List.mem_append, List.mem_append, List.mem_map, List.mem_map] at mem
    rcases mem with (here | ⟨t, low, rfl⟩) | ⟨t, late, rfl⟩
    · exact standsIn_of_mem_here here
    · have given : child ≠ nil := by
        rintro rfl
        exact absurd low List.not_mem_nil
      obtain ⟨inBranch, whole⟩ := ihc _ t low
      exact ⟨inBranch.below given next, fun noEnd => (whole noEnd).below given next⟩
    · have given : next ≠ nil := by
        rintro rfl
        exact absurd late List.not_mem_nil
      obtain ⟨inBranch, whole⟩ := ihn _ t late
      exact ⟨inBranch.behind given kind child, fun noEnd => (whole noEnd).behind given kind child⟩

theorem StandsIn.run_eq {p q : Pattern} (h : StandsIn branched p q) (d : Document) :
    q.run d = p.run d := by
  rw [run, run, h.matched]

/-- **What is reported as never matched is never matched.** There is a shortened pattern for each
report, and on every document it comes to the same answer as the pattern itself, with the same scope
and with the same happenings, which are told to the same handlers: the pattern without what stands
behind the reported node up to the end of its branch; and the pattern without everything that stands
behind this node in its chain, unless a branch of an alternative ends there. -/
theorem ignored_never_matched (p : Pattern) :
    (p.shortenings false).map (warning ·.reported) = p.warnings ∧
      ∀ s ∈ p.shortenings false, ∀ d,
        s.inBranch.run d = p.run d ∧ (s.endsBranch = false → s.whole.run d = p.run d) := by
  refine ⟨?_, fun s mem d => ?_⟩
  · rw [warnings, ← p.map_reported_shortenings false, List.map_map]
    rfl
  · obtain ⟨inBranch, whole⟩ := p.standsIn_of_mem_shortenings false s mem
    exact ⟨inBranch.run_eq d, fun noEnd => (whole noEnd).run_eq d⟩

/-- A line break behind a text, in a paragraph of an alternative. -/
theorem ignored_never_matched_break :
    ∃ p d, Template.compile "\x7beither\x7d<p>a<br></p>\x7bor\x7d<i></i>\x7b/either\x7d" = .ok p ∧
      Document.read "<p>a</p>" .lenient = .ok d ∧ (p.run d).verdict.isValid ∧
      ∃ s ∈ p.shortenings false, s.reported = (.literal "a", .element "br") ∧
        s.endsBranch = false ∧ s.whole.run d = p.run d := by
  obtain ⟨p, d, compiled, read, valid, seen⟩ : ∃ p d,
      Template.compile "\x7beither\x7d<p>a<br></p>\x7bor\x7d<i></i>\x7b/either\x7d" = .ok p ∧
      Document.read "<p>a</p>" .lenient = .ok d ∧ (p.run d).verdict.isValid ∧
      (p.shortenings false).map (fun s => (s.reported, s.endsBranch)) =
        [((.literal "a", .element "br"), false)] :=
    ⟨_, _, by cbv, by cbv, by cbv, by cbv⟩
  obtain ⟨s, rest, only, told, -⟩ := List.map_eq_cons_iff.mp seen
  obtain ⟨reported, noEnd⟩ := Prod.mk.inj told
  have mem : s ∈ p.shortenings false := only ▸ List.mem_cons_self
  exact ⟨p, d, compiled, read, valid, s, mem, reported, noEnd,
    ((ignored_never_matched p).2 s mem d).2 noEnd⟩

/-- The second branch of an alternative, behind a text that is reported to ignore it. -/
theorem branch_matched_behind_text :
    ∃ p d, Template.compile "\x7beither\x7da\x7bor\x7d<b></b>\x7b/either\x7d" = .ok p ∧
      Document.read "<b></b>" .lenient = .ok d ∧ (p.run d).verdict.isValid ∧
      ∃ s ∈ p.shortenings false, s.reported = (.literal "a", .option) ∧
        (s.whole.run d).verdict.isInvalid := by
  obtain ⟨p, d, compiled, read, valid, seen⟩ : ∃ p d,
      Template.compile "\x7beither\x7da\x7bor\x7d<b></b>\x7b/either\x7d" = .ok p ∧
      Document.read "<b></b>" .lenient = .ok d ∧ (p.run d).verdict.isValid ∧
      (p.shortenings false).map (fun s => (s.reported, (s.whole.run d).verdict.isInvalid)) =
        [((.literal "a", .option), true)] :=
    ⟨_, _, by cbv, by cbv, by cbv, by cbv⟩
  obtain ⟨s, rest, only, told, -⟩ := List.map_eq_cons_iff.mp seen
  obtain ⟨reported, invalid⟩ := Prod.mk.inj told
  exact ⟨p, d, compiled, read, valid, s, only ▸ List.mem_cons_self, reported, invalid⟩

end Pattern

end Stencil
