import Mathlib
import Stencil.Matching.Run
import Stencil.Proofs.Matching.Levels
import Stencil.Template.Compile

/-!
# Matching — what the answer of a run means

A document on which a run is valid is in the language of the pattern, if no repetition and no
alternative goes on inside an element; a repetition that does so takes documents that are not. A run
that leaves a node over has matched what stands before it, which need not be valid by itself:
repetitions, alternatives and wildcards do not go back on what they have taken. It is valid by
itself where the pattern never has a choice (`Pattern.isValid_of_denotes`).
-/

namespace Stencil

/-- Nodes in the frame that a document gets. -/
def Document.page (content : List Node) : Document :=
  ⟨[.element 0 "html" [] [.element 1 "body" [] content]]⟩

namespace Pattern

/-- A pattern in the frame that a template gets. -/
def page (content : Pattern) : Pattern :=
  node (.element "html") (node (.element "body") content nil) nil

variable {child next : Pattern} {row rest : List Site}

/-! ### Patterns that never have a choice -/

/-- Whether a pattern has no repetition, no alternative and nothing behind a wildcard. -/
def isDirect : Pattern → Bool
  | nil => true
  | node kind child next =>
    match kind with
    | .element _ => child.isDirect && next.isDirect
    | .literal _ | .search _ | .option => true
    | .wildcard => decide (next = nil)
    | .wildcardExcept => next.isDirect
    | .scope | .capture _ => child.isDirect
    | .many | .either => false

/-- A wildcard with a forbidden pattern comes at least to where the rest of the chain is valid. -/
theorem isValid_avoidingUntil (served : (next.verdict rest).isValid) (skipped : List Site)
    (along : child.RejectsAlong skipped rest) :
    (child.matcher.avoidingUntil next.matcher (skipped ++ rest) .fresh).verdict.isValid := by
  induction skipped with
  | nil =>
    rw [List.nil_append]
    cases rest with
    | nil =>
      rw [Matcher.avoidingUntil, verdict_atEnd, verdictBehind, if_pos rfl, if_pos served]
      rfl
    | cons s rest =>
      rw [Matcher.avoidingUntil, verdict_matcher, if_pos served, verdict_matcher]
      exact served
  | cons s skipped ih =>
    have probe := along (s :: skipped) (by simp) (List.suffix_refl _)
    rw [List.cons_append] at probe ⊢
    rw [Matcher.avoidingUntil]
    simp only [verdict_matcher, probe, Verdict.isInvalid_invalid, if_true]
    by_cases here : (next.verdict (s :: (skipped ++ rest))).isValid
    · rw [if_pos here, verdict_matcher]
      exact here
    · rw [if_neg here, Attempt.after_verdict]
      exact ih fun x ne suffix => along x ne (suffix.trans (List.suffix_cons s skipped))

/-- **A pattern that never has a choice is valid on all rows of its language.** -/
theorem isValid_of_denotes {p : Pattern} (h : p.Denotes row) (direct : p.isDirect) :
    (p.verdict row).isValid := by
  induction h with
  | nil =>
    rw [verdict_nil_nil]
    rfl
  | element _ _ ihc ihn =>
    obtain ⟨hc, hn⟩ := Bool.and_eq_true_iff.mp direct
    rw [verdict_element, if_pos (ihc hc)]
    exact ihn hn
  | literal =>
    rw [verdict_literal, Matcher.literal, if_pos rfl]
    rfl
  | search starts found =>
    rw [verdict_search, Matcher.search, starts, found]
    rfl
  | wildcard skipped _ _ =>
    have last := of_decide_eq_true direct
    subst last
    rw [verdict_wildcard_nil]
    rfl
  | anything =>
    rw [verdict_wildcardExcept_nil_nil]
    rfl
  | unguarded last _ ih =>
    rw [verdict_wildcardExcept_nil last]
    exact ih direct
  | guarded skipped hc along _ ih =>
    rw [verdict_wildcardExcept hc]
    exact isValid_avoidingUntil (ih direct) skipped along
  | many => cases direct
  | scope _ ih =>
    rw [verdict_scope]
    exact ih direct
  | capture _ ih =>
    rw [verdict_capture]
    exact ih direct
  | either => cases direct
  | eitherLast => cases direct
  | option =>
    rw [verdict_option]
    rfl

/-! ### Valid runs -/

/-- **A document on which a run is valid is in the language of the pattern**, if every part of the
pattern that has a share in the answer is tried on the level that it is written on. -/
theorem denotes_of_valid (p : Pattern) (d : Document) (valid : (p.run d).verdict.isValid)
    (level : p.Level d.outline) : p.Denotes d.outline := by
  have settled : p.Settled d.outline :=
    settled_of_level level [] 0 d.rooted_outline (onRow_of_isValid valid)
  exact sound_of_settled settled [] 0 d.rooted_outline d.outline (matched_of_isValid valid)

/-- A list of items, each with anything in it, is one or more items. -/
theorem denotes_of_valid_items :
    ∃ p d, Template.compile "<ul>\x7bmany\x7d<li>\x7b...\x7d</li>\x7b/many\x7d</ul>" = .ok p ∧
      Document.read "<ul><li>a</li> <li>b</li></ul>" .lenient = .ok d ∧
      (p.run d).verdict.isValid ∧ p.Level d.outline ∧ p.Denotes d.outline := by
  have safe : (page (node (.element "ul")
      (node .many (node (.element "li") (node .wildcard nil nil) nil) nil) nil)).Safe := by
    refine ⟨trivial, trivial, trivial, trivial, ⟨trivial, trivial, nofun⟩, trivial, ?_⟩
    intro tag _ pos
    rw [verdict_wildcard_nil]
    rfl
  have level := level_of_safe _ safe (Document.page [.element 2 "ul" []
    [.element 3 "li" [] [.text 4 "a"], .text 3 " ", .element 3 "li" [] [.text 4 "b"]]]).outline
  exact ⟨_, _, by cbv, by cbv, by cbv, level, denotes_of_valid _ _ (by cbv) level⟩

/-- A repetition goes on inside an element: the second round of a `div` with a `p` in it and an `i`
after it is tried, and rejected, at what the first one left over in the `div`; there the rest of the
chain is valid. -/
theorem valid_outside_language :
    ∃ p d, Template.compile
        "\x7bmany\x7d<div><p></p></div><i></i>\x7b/many\x7d<b></b>" = .ok p ∧
      Document.read "<div><p></p><b></b></div>" .lenient = .ok d ∧
      (p.run d).verdict.isValid ∧ ¬ p.Denotes d.outline := by
  refine ⟨page (node .many
      (node (.element "div") (node (.element "p") nil nil) (node (.element "i") nil nil))
      (node (.element "b") nil nil)),
    .page [.element 2 "div" [] [.element 3 "p" [] [], .element 3 "b" [] []]],
    by cbv, by cbv, by cbv, fun html => ?_⟩
  have outline : (Document.page [.element 2 "div" [] [.element 3 "p" [] [],
      .element 3 "b" [] []]]).outline = [.element ⟨[0], 0⟩ "html" [.element ⟨[0, 0], 1⟩ "body"
        [.element ⟨[0, 0, 0], 2⟩ "div" [.element ⟨[0, 0, 0, 0], 3⟩ "p" [],
          .element ⟨[0, 0, 0, 1], 3⟩ "b" []]]]] := by cbv
  rw [outline] at html
  cases html with
  | element body _ =>
  cases body with
  | element chain _ =>
  generalize e : [Site.element ⟨[0, 0, 0], 2⟩ "div" _] = row at chain
  cases chain with
  | many rounds _ _ rest =>
  cases rest with
  | element _ _ =>
    -- behind any rounds there is a `b`, and the row holds a `div` only
    generalize rounds.flatten = front at e
    cases front with
    | nil => simp at e
    | cons => simp at e

/-! ### Runs that leave nodes over -/

/-- **What stands before the node that a run leaves over is in the language of the pattern**, if
the answer is settled; and it is valid by itself, if the pattern never has a choice. -/
theorem denotes_of_leftover (p : Pattern) (d : Document) (t : Site) (after : List Site)
    (left : (p.run d).verdict = .leftover t after) (settled : p.Settled d.outline) :
    p.Denotes (d.before t.place.path).outline ∧
      (p.isDirect → (p.run (d.before t.place.path)).verdict.isValid) := by
  have mem : t :: after ∈ d.positions := p.forward_matcher _ _ _ _ left
  have stands : t.place.path ≠ [] := by
    obtain ⟨i, path, eq, -⟩ := d.rooted_outline.path_of_mem mem
    rw [eq]
    simp
  have before : p.Denotes (d.before t.place.path).outline := by
    rw [d.outline_before stands]
    refine sound_of_settled settled [] 0 d.rooted_outline _ ?_
    have left' : p.verdict d.outline = .leftover t after := left
    rw [left', Verdict.matched]
  exact ⟨before, isValid_of_denotes before⟩

/-- What stands before the second of two elements is the first one, by itself. -/
theorem denotes_of_leftover_first :
    ∃ p d t after, Template.compile "<a></a>" = .ok p ∧
      Document.read "<a></a><b></b>" .lenient = .ok d ∧
      (p.run d).verdict = .leftover t after ∧ p.Settled d.outline ∧
      p.Denotes (d.before t.place.path).outline ∧
      (p.run (d.before t.place.path)).verdict.isValid := by
  have outline : (Document.page [.element 2 "a" [] [], .element 2 "b" [] []]).outline =
      [.element ⟨[0], 0⟩ "html" [.element ⟨[0, 0], 1⟩ "body"
        [.element ⟨[0, 0, 0], 2⟩ "a" [], .element ⟨[0, 0, 1], 2⟩ "b" []]]] := by cbv
  have settled : (page (node (.element "a") nil nil)).Settled
      (Document.page [.element 2 "a" [] [], .element 2 "b" [] []]).outline := by
    rw [outline]
    refine .element (.element (.element .nil .nil ?_) .nil fun _ _ => by cbv) .nil
      fun _ _ => by cbv
    simp [verdict_nil_nil]
  have answer := denotes_of_leftover _ _ (.element ⟨[0, 0, 1], 2⟩ "b" []) [] (by cbv) settled
  exact ⟨_, _, _, [], by cbv, by cbv, by cbv, settled, answer.1, answer.2 (by cbv)⟩

/-- The branch for an `a` with a `b` after it is valid on both, and stands for the `a` alone, so
that the `b` is left over; without the `b`, no branch matches. -/
theorem leftover_not_valid_before :
    ∃ p d t after, Template.compile
        "\x7beither\x7d<a></a><b></b>\x7bor\x7d<c></c>\x7b/either\x7d" = .ok p ∧
      Document.read "<a></a><b></b>" .lenient = .ok d ∧
      (p.run d).verdict = .leftover t after ∧
      Document.read "<a></a>" .lenient = .ok (d.before t.place.path) ∧
      (p.run (d.before t.place.path)).verdict.isValid = false :=
  ⟨page (node .either (node (.element "a") nil (node (.element "b") nil
      (node .option nil (node (.element "c") nil nil)))) nil),
    .page [.element 2 "a" [] [], .element 2 "b" [] []],
    .element ⟨[0, 0, 1], 2⟩ "b" [], [], by cbv, by cbv, by cbv, by cbv, by cbv⟩

/-- A repetition never gives a round back: a paragraph that is empty once its text is cut off is a
round itself, and none is left for the rest of the chain. -/
theorem leftover_behind_rounds_not_valid_before :
    ∃ p d t, Template.compile
        "\x7bmany\x7d<p>\x7b/^$/\x7d</p>\x7b/many\x7d<p></p>" = .ok p ∧
      Document.read "<p></p><p>a</p>" .lenient = .ok d ∧
      p.Settled d.outline ∧ (p.run d).verdict = .leftover t [] ∧
      Document.read "<p></p><p></p>" .lenient = .ok (d.before t.place.path) ∧
      (p.run (d.before t.place.path)).verdict.isValid = false := by
  let blank : Pattern := node (.element "p") (node (.search ⟨"^$", _, by cbv⟩) nil nil) nil
  let p := page (node .many blank (node (.element "p") nil nil))
  let d := Document.page [.element 2 "p" [] [], .element 2 "p" [] [.text 3 "a"]]
  let empty : Site := .element ⟨[0, 0, 0], 2⟩ "p" []
  let full : Site := .element ⟨[0, 0, 1], 2⟩ "p" [.text ⟨[0, 0, 1, 0], 3⟩ "a"]
  have outline : d.outline =
      [.element ⟨[0], 0⟩ "html" [.element ⟨[0, 0], 1⟩ "body" [empty, full]]] := by
    unfold d empty full
    cbv
  have first : blank.verdict [empty, full] = .leftover full [] := by
    unfold blank empty full
    cbv
  have second : blank.verdict [full] = .invalid := by
    unfold blank full
    cbv
  -- there is one round, behind the first paragraph
  have round {x y : Position} (start : x = [empty, full] ∨ x = [full]) (step : blank.Round x y) :
      x = [empty, full] ∧ y = [full] := by
    obtain ⟨left, -⟩ := step
    rcases start with rfl | rfl
    · cases first.symm.trans left
      exact ⟨rfl, rfl⟩
    · cases second.symm.trans left
  have reached {x : Position} (h : Relation.ReflTransGen blank.Round [empty, full] x) :
      x = [empty, full] ∨ x = [full] := by
    induction h with
    | refl => exact .inl rfl
    | tail _ step ih => exact .inr (round ih step).2
  have chain : (node .many blank (node (.element "p") nil nil)).Settled [empty, full] := by
    have resumed : blank.resume? [empty, full] = some [full] := by
      unfold blank empty full
      cbv
    refine .many (fun x h => ?_) (fun x y h step => ?_) resumed ?_
    · rcases reached h with rfl | rfl
      · refine .element .search .nil fun _ left => absurd left (ne_true_of_eq_false ?_)
        cbv
      · exact .rejected second
    · obtain ⟨rfl, rfl⟩ := round (reached h) step
      exact List.suffix_cons _ _
    · exact .element .nil .nil fun _ _ => by cbv
  have settled : p.Settled d.outline := by
    rw [outline]
    exact .element (.element chain .nil fun _ _ => by cbv) .nil fun _ _ => by cbv
  exact ⟨p, d, .text ⟨[0, 0, 1, 0], 3⟩ "a", by cbv, by cbv, settled, by unfold p blank; cbv, by cbv,
    by unfold p blank; cbv⟩

/-- A wildcard stops at the first paragraph that is not rejected: once the text of the second one is
cut off, this is the first of three, and one is left over. -/
theorem leftover_behind_wildcard_not_valid_before :
    ∃ p d t, Template.compile "\x7b...\x7d<p></p><p>\x7b/^$/\x7d</p>" = .ok p ∧
      Document.read "<p></p><p>a</p><p></p>" .lenient = .ok d ∧
      p.Settled d.outline ∧ (p.run d).verdict = .leftover t [] ∧
      Document.read "<p></p><p></p><p></p>" .lenient = .ok (d.before t.place.path) ∧
      (p.run (d.before t.place.path)).verdict.isValid = false := by
  let blank : Pattern := node (.element "p") (node (.search ⟨"^$", _, by cbv⟩) nil nil) nil
  let p := page (node .wildcard nil (node (.element "p") nil blank))
  let d := Document.page [.element 2 "p" [] [], .element 2 "p" [] [.text 3 "a"],
    .element 2 "p" [] []]
  let empty (i : Nat) : Site := .element ⟨[0, 0, i], 2⟩ "p" []
  let full : Site := .element ⟨[0, 0, 1], 2⟩ "p" [.text ⟨[0, 0, 1, 0], 3⟩ "a"]
  have outline : d.outline =
      [.element ⟨[0], 0⟩ "html" [.element ⟨[0, 0], 1⟩ "body" [empty 0, full, empty 2]]] := by
    unfold d empty full
    cbv
  have stops : (node (.element "p") nil blank).stop [empty 0, full, empty 2] = [full, empty 2] := by
    unfold blank empty full
    cbv
  have chain : (node .wildcard nil (node (.element "p") nil blank)).Settled
      [empty 0, full, empty 2] := by
    refine .wildcard ?_
    rw [stops]
    refine .element .nil (.element .search .nil fun _ _ => by cbv) fun _ _ => ?_
    unfold blank empty
    cbv
  have settled : p.Settled d.outline := by
    rw [outline]
    exact .element (.element chain .nil fun _ _ => by cbv) .nil fun _ _ => by cbv
  exact ⟨p, d, .text ⟨[0, 0, 1, 0], 3⟩ "a", by cbv, by cbv, settled, by unfold p blank; cbv, by cbv,
    by unfold p blank; cbv⟩

end Pattern

end Stencil
