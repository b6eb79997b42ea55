import Mathlib
import Stencil.Document.Read
import Stencil.Proofs.Matching.Course
import Stencil.Proofs.Matching.Progress
import Stencil.Template.Compile

/-!
# Matching — the deepest node

What is reported as the deepest node before which the pattern ran out is the last one of the deepest
nodes in the course of a match (`Pattern.deepest_is_last_of_deepest`). The node that is left over at
the end is one of those that are met there (`Pattern.mem_ranOut_of_leftover`).
-/

namespace Stencil

/-! ### The deepest node -/

namespace Site

/-- A node is the last one of the deepest nodes of a row. -/
def LastDeepest (row : List Site) (s : Site) : Prop :=
  ∃ before after, row = before ++ s :: after ∧
    (∀ t ∈ before, t.depth ≤ s.depth) ∧ ∀ t ∈ after, t.depth < s.depth

variable {row : List Site} {s t : Site}

theorem LastDeepest.depth_le (h : LastDeepest row s) (mem : t ∈ row) : t.depth ≤ s.depth := by
  obtain ⟨before, after, rfl, earlier, later⟩ := h
  rcases List.mem_append.mp mem with mem | mem
  · exact earlier t mem
  · rcases List.mem_cons.mp mem with rfl | mem
    · exact Nat.le_refl _
    · exact (later t mem).le

theorem LastDeepest.unique (h : LastDeepest row s) (h' : LastDeepest row t) : s = t := by
  obtain ⟨before, after, split, earlier, later⟩ := h
  obtain ⟨before', after', split', earlier', later'⟩ := h'
  rcases List.append_eq_append_iff.mp (split.symm.trans split') with
    ⟨_ | ⟨x, between⟩, left, right⟩ | ⟨_ | ⟨x, between⟩, left, right⟩
  · exact (List.cons.inj right).1
  · -- `s` stands before `t`, which is less deep for `s`, and no less deep for itself
    obtain ⟨rfl, rfl⟩ := List.cons.inj right
    exact absurd (earlier' s (by simp [left])) (Nat.not_le_of_lt (later t (by simp)))
  · exact (List.cons.inj right).1.symm
  · obtain ⟨rfl, rfl⟩ := List.cons.inj right
    exact absurd (earlier t (by simp [left])) (Nat.not_le_of_lt (later' s (by simp)))

theorem foldl_deeper_append (row : List Site) (s : Site) :
    (row ++ [s]).foldl deeper none = deeper (row.foldl deeper none) s := by
  rw [List.foldl_append]
  rfl

theorem deeper_ne_none (earlier : Option Site) (later : Site) : deeper earlier later ≠ none := by
  cases earlier with
  | none => exact nofun
  | some s =>
    rw [deeper]
    split
    · exact nofun
    · exact nofun

theorem foldl_deeper_eq_none_iff : row.foldl deeper none = none ↔ row = [] := by
  refine ⟨fun h => ?_, fun h => by rw [h]; rfl⟩
  rcases List.eq_nil_or_concat row with rfl | ⟨front, x, rfl⟩
  · rfl
  · rw [List.concat_eq_append, foldl_deeper_append] at h
    exact absurd h (deeper_ne_none _ x)

/-- Node by node, the later of two is kept unless the earlier one is deeper. -/
theorem lastDeepest_of_foldl (h : row.foldl deeper none = some s) : LastDeepest row s := by
  induction row using List.reverseRecOn generalizing s with
  | nil => cases h
  | append_singleton row x ih =>
    rw [foldl_deeper_append] at h
    cases kept : row.foldl deeper none with
    | none =>
      rw [kept] at h
      cases h
      rw [foldl_deeper_eq_none_iff.mp kept]
      exact ⟨[], [], rfl, nofun, nofun⟩
    | some y =>
      have deepest := ih kept
      rw [kept, deeper] at h
      split at h
      · next le =>
        cases h
        exact ⟨row, [], rfl, fun t mem => (deepest.depth_le mem).trans le, nofun⟩
      · next lt =>
        cases h
        obtain ⟨before, after, rfl, earlier, later⟩ := deepest
        refine ⟨before, after ++ [x], by simp, earlier, fun t mem => ?_⟩
        rcases List.mem_append.mp mem with mem | mem
        · exact later t mem
        · rw [List.mem_singleton.mp mem]
          exact Nat.lt_of_not_le lt

/-- **What is kept is the last one of the deepest nodes.** -/
theorem foldl_deeper_eq_some_iff : row.foldl deeper none = some s ↔ LastDeepest row s := by
  refine ⟨lastDeepest_of_foldl, fun h => ?_⟩
  cases kept : row.foldl deeper none with
  | none =>
    obtain ⟨before, after, split, -⟩ := h
    simp [foldl_deeper_eq_none_iff.mp kept] at split
  | some t => rw [(lastDeepest_of_foldl kept).unique h]

end Site

/-! ### What is left over is told of -/

namespace Matcher

/-- Nodes that are left over have been told of. -/
def TellsLeft (m : Matcher) : Prop :=
  ∀ pos s t after, (m pos s).verdict = .leftover t after → t ∈ (m pos s).ranOut

variable {child next : Matcher} {s : Scope}

theorem mem_ranOut_after {a : Attempt} {t : Site} (trace : List Happening) (h : t ∈ a.ranOut) :
    t ∈ (a.after trace).ranOut := by
  rw [Attempt.ranOut_after]
  exact List.mem_append_right _ h

theorem tellsLeft_element {tag : String} (hc : TellsLeft child) (hn : TellsLeft next) :
    TellsLeft (element tag child next) := by
  rintro (_ | ⟨⟨place, name, children⟩ | ⟨place, content⟩, rest⟩) s t after h
  · cases h
  · rw [element] at h ⊢
    by_cases same : name = tag
    · rw [if_pos same] at h ⊢
      dsimp only at h ⊢
      split at h
      · next valid =>
        rw [if_pos valid]
        exact mem_ranOut_after _ (hn _ _ _ _ h)
      · next other =>
        rw [if_neg other]
        exact hc _ _ _ _ h
    · rw [if_neg same] at h
      cases h
  · cases h

theorem tellsLeft_wildcard (hn : TellsLeft next) : TellsLeft (wildcard next) := by
  intro pos s t after h
  induction pos with
  | nil => exact absurd h atEnd_ne_leftover
  | cons x rest ih =>
    rw [wildcard] at h ⊢
    split at h
    · next rejected =>
      rw [if_pos rejected]
      exact mem_ranOut_after _ (ih h)
    · next other =>
      rw [if_neg other]
      exact hn _ _ _ _ h

theorem tellsLeft_many (hn : TellsLeft next) : TellsLeft (many child next) := by
  intro pos s t after h
  rw [many] at h ⊢
  split at h
  · next matched =>
    rw [if_pos matched]
    exact mem_ranOut_after _ (hn _ _ _ _ h)
  · cases h

theorem tellsLeft_firstOf (hn : TellsLeft next) (branches : List Matcher) {x t : Site}
    {rest after : List Site} (h : (firstOf next x rest s branches).verdict = .leftover t after) :
    t ∈ (firstOf next x rest s branches).ranOut := by
  induction branches with
  | nil => cases h
  | cons branch branches ih =>
    by_cases valid : (branch (x :: rest) s).verdict.isValid
    · obtain ⟨text, ends⟩ := (Verdict.isValid_iff _).mp valid
      rw [firstOf_of_valid branch ends] at h ⊢
      exact mem_ranOut_after _ (hn _ _ _ _ h)
    · by_cases more : branches = []
      · subst more
        cases ends : (branch (x :: rest) s).verdict with
        | valid text => simp [ends] at valid
        | leftover y behind =>
          rw [firstOf_last_of_leftover branch ends] at h ⊢
          exact mem_ranOut_after _ (hn _ _ _ _ h)
        | invalid =>
          rw [firstOf_last_of_invalid branch ends] at h
          cases h
      · rw [firstOf_of_not_valid branch (Bool.eq_false_of_not_eq_true valid) more] at h ⊢
        exact mem_ranOut_after _ (ih h)

theorem closed_tellsLeft : Closed TellsLeft where
  ending := by
    rintro (_ | ⟨x, rest⟩) s t after h
    · cases h
    · cases h
      exact List.mem_singleton_self x
  anywhere := nofun
  literal := fun _ pos _ _ _ h => absurd h (literal_ne_leftover pos)
  search := fun _ pos _ _ _ h => absurd h (search_ne_leftover pos)
  element := fun _ => tellsLeft_element
  framed := fun hc pos s => hc pos s.push
  capture := by
    intro name child hc pos s t after h
    rw [ranOut_capture]
    rw [capture] at h
    dsimp only at h
    split at h
    · next valid => exact absurd h (by simp [valid])
    · exact hc _ _ _ _ h
  wildcard := tellsLeft_wildcard
  avoiding := by
    intro forbidden _ pos s t after h
    rw [Pattern.verdict_avoiding] at h
    exact absurd h (avoidingUntil_ne_leftover pos)
  avoidingUntil := fun _ _ pos _ _ _ h => absurd h (avoidingUntil_ne_leftover pos)
  many := fun _ => tellsLeft_many
  either := by
    rintro branches next - hn (_ | ⟨x, rest⟩) s t after h
    · cases h
    · exact tellsLeft_firstOf hn branches h

end Matcher

namespace Pattern

theorem mem_ranOut_of_leftover {p : Pattern} {pos : Position} {s : Scope} {t : Site}
    {after : List Site} (h : (p.matcher pos s).verdict = .leftover t after) :
    t ∈ (p.matcher pos s).ranOut := matcher_of_closed Matcher.closed_tellsLeft p pos s t after h

end Pattern

namespace Attempt

/-- **The node that is left over and the one that is reported.** A second node is named only if it is
no less deep than the first one. -/
theorem summary_of_leftover {a : Attempt} {t s : Site} {after : List Site}
    (left : a.verdict = .leftover t after) (deepest : a.deepest = some s) :
    a.summary = "partial at " ++ t.describe ++
      if t.place = s.place then "" else " (template ran out before " ++ s.describe ++ ")" := by
  rw [summary, left, divergence, deepest, left]
  simp [Verdict.site?]

end Attempt

/-- **What is reported as deepest is the true deepest point of divergence.** Of the nodes at which
some chain was empty in the course of a run, in order, it is the last one of maximal depth, and there
is none only if there are no such nodes. So when nodes are left over, there is one, which is no less
deep than the first of these nodes, and the summary names it as a second node where it is another
one. -/
theorem Pattern.deepest_is_last_of_deepest (p : Pattern) (d : Document) :
    let a := p.run d
    let sequence := exhausted (p.evaluations d.outline)
    (a.deepest = none ↔ sequence = []) ∧
      (∀ s, a.deepest = some s ↔ Site.LastDeepest sequence s) ∧
      ∀ t after, a.verdict = .leftover t after →
        ∃ s, a.deepest = some s ∧ t.depth ≤ s.depth ∧
          a.summary = "partial at " ++ t.describe ++
            if t.place = s.place then "" else " (template ran out before " ++ s.describe ++ ")" := by
  intro a sequence
  have told : a.ranOut = sequence := p.ranOut_matcher d.outline .fresh
  refine ⟨?_, fun s => ?_, fun t after left => ?_⟩
  · rw [← told]
    exact Site.foldl_deeper_eq_none_iff
  · rw [← told]
    exact Site.foldl_deeper_eq_some_iff
  · have mem : t ∈ a.ranOut := mem_ranOut_of_leftover left
    cases deepest : a.deepest with
    | none =>
      rw [Site.foldl_deeper_eq_none_iff.mp deepest] at mem
      cases mem
    | some s =>
      exact ⟨s, rfl, (Site.lastDeepest_of_foldl deepest).depth_le mem,
        Attempt.summary_of_leftover left deepest⟩

/-- The template ran out before a bold text in a branch that fails; the other branch leaves an
element over that is less deep. -/
theorem Pattern.deepest_in_failed_branch :
    ∃ p d s t, Template.compile ("\x7beither\x7d<div><p></p></div>" ++
        "\x7bor\x7d<div>\x7b...\x7d</div>\x7b/either\x7d") = .ok p ∧
      Document.read "<div><p><b></b></p></div><i></i>" .lenient = .ok d ∧
      (p.run d).verdict = .leftover t [] ∧ Site.LastDeepest (exhausted (p.evaluations d.outline)) s ∧
      (t.describe, t.depth, s.describe, s.depth) = ("<i>", 2, "<b>", 4) ∧
      (p.run d).summary = "partial at <i> (template ran out before <b>)" := by
  let d : Document := ⟨[.element 0 "html" [] [.element 1 "body" []
    [.element 2 "div" [] [.element 3 "p" [] [.element 4 "b" [] []]], .element 2 "i" [] []]]]⟩
  let p : Pattern := node (.element "html") (node (.element "body") (node .either
    (node (.element "div") (node (.element "p") nil nil) (node .option nil
      (node (.element "div") (node .wildcard nil nil) nil))) nil) nil) nil
  have left : (p.run d).verdict = .leftover (.element ⟨[0, 0, 1], 2⟩ "i" []) [] := by
    unfold p
    cbv
  have deepest : (p.run d).deepest = some (.element ⟨[0, 0, 0, 0, 0], 4⟩ "b" []) := by
    unfold p
    cbv
  obtain ⟨-, last, summary⟩ := p.deepest_is_last_of_deepest d
  obtain ⟨s, found, -, said⟩ := summary _ [] left
  obtain rfl := Option.some.inj (deepest.symm.trans found)
  exact ⟨p, d, _, _, by cbv, by cbv, left, (last _).mp deepest, by cbv, said.trans (by cbv)⟩

end Stencil
