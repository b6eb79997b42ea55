import Mathlib
import Stencil.Document.Read
import Stencil.Proofs.Document.Outline
import Stencil.Proofs.Matching.Verdict
import Stencil.Template.Compile

/-!
# Matching — progress

What a match leaves over starts at its own position or later in document order, and never further
out (`Pattern.forward_matcher`). So a repetition whose round runs out before another node than the
one it started at has fewer nodes left, and its rounds come to an end: as a loop that goes on as
long as this is so (`Matcher.Loop`), they are no more than one for each node and one
(`Matcher.loop_rounds`).
-/

namespace Stencil

namespace Matcher

/-- What a matcher leaves over is a row that it was given, or one that comes later in it. -/
def Forward (m : Matcher) : Prop :=
  ∀ pos s t after, (m pos s).verdict = .leftover t after → t :: after ∈ Site.positions pos

variable {child next forbidden : Matcher} {s : Scope} {t : Site} {after : List Site}

theorem forward_element {tag : String} (hc : Forward child) (hn : Forward next) :
    Forward (element tag child next) := by
  rintro (_ | ⟨⟨place, name, children⟩ | ⟨place, content⟩, rest⟩) s t after h
  · cases h
  · rw [element] at h
    by_cases same : name = tag
    · rw [if_pos same] at h
      dsimp only at h
      split at h
      · exact Site.mem_positions_of_tail (hn _ _ _ _ h)
      · -- the children are handed up as they are
        exact Site.mem_positions_of_children (hc _ _ _ _ h)
    · rw [if_neg same] at h
      cases h
  · cases h

/-- Nothing is left over behind the last sibling. -/
theorem atEnd_ne_leftover : (atEnd next s).verdict ≠ .leftover t after := by
  rw [atEnd]
  split
  · simp
  · simp

theorem forward_wildcard (hn : Forward next) : Forward (wildcard next) := by
  intro pos s t after h
  induction pos with
  | nil => exact absurd h atEnd_ne_leftover
  | cons x rest ih =>
    rw [wildcard] at h
    split at h
    · exact Site.mem_positions_of_tail (ih h)
    · exact hn _ _ _ _ h

/-- A wildcard with a forbidden pattern leaves nothing over. -/
theorem avoidingUntil_ne_leftover (pos : Position) :
    (avoidingUntil forbidden next pos s).verdict ≠ .leftover t after := by
  induction pos with
  | nil => exact atEnd_ne_leftover
  | cons x rest ih =>
    rw [avoidingUntil]
    dsimp only
    split
    · next valid => exact fun h => absurd valid (by simp [h])
    · split
      · exact ih
      · simp

/-- Where a repetition comes to is where it started, or later. -/
theorem rounds_tail (hc : Forward child) (matched : Bool) (pos : Position) :
    (rounds child matched pos s).tail = pos ∨
      (rounds child matched pos s).tail ∈ Site.positions pos := by
  fun_induction rounds child matched pos s with
  | case1 matched pos round t rest left shorter later ih =>
    have first := hc _ _ _ _ left
    rcases ih with same | further
    · exact .inr (by rw [← same] at first; exact first)
    · exact .inr (Site.mem_positions_trans first further)
  | case2 => exact .inl rfl
  | case3 => exact .inl rfl
  | case4 => exact .inl rfl

theorem forward_many (hc : Forward child) (hn : Forward next) : Forward (many child next) := by
  intro pos s t after h
  rw [many] at h
  split at h
  · have found := hn _ _ _ _ h
    split at found
    · exact absurd found Site.not_mem_positions_nil
    · rcases rounds_tail hc false pos (s := s) with same | further
      · rwa [same] at found
      · exact Site.mem_positions_trans further found
  · cases h

theorem forward_firstOf {branches : List Matcher} (hb : ∀ b ∈ branches, Forward b)
    (hn : Forward next) (x : Site) (rest : List Site)
    (h : (firstOf next x rest s branches).verdict = .leftover t after) :
    t :: after ∈ Site.positions (x :: rest) := by
  induction branches with
  | nil => cases h
  | cons branch branches ih =>
    have later := ih fun b mem => hb b (List.mem_cons_of_mem _ mem)
    cases e : (branch (x :: rest) s).verdict with
    | valid text =>
      rw [firstOf_of_valid branch e] at h
      exact Site.mem_positions_of_tail (hn _ _ _ _ h)
    | leftover y behind =>
      by_cases more : branches = []
      · subst more
        rw [firstOf_last_of_leftover branch e] at h
        exact Site.mem_positions_trans (hb branch List.mem_cons_self _ _ _ _ e) (hn _ _ _ _ h)
      · rw [firstOf_of_not_valid branch (by simp [e]) more] at h
        exact later h
    | invalid =>
      by_cases more : branches = []
      · subst more
        rw [firstOf_last_of_invalid branch e] at h
        cases h
      · rw [firstOf_of_not_valid branch (by simp [e]) more] at h
        exact later h

theorem literal_ne_leftover {content : String} (pos : Position) :
    (literal content pos s).verdict ≠ .leftover t after := by
  rcases pos with _ | ⟨_ | ⟨place, text⟩, rest⟩
  · exact nofun
  · exact nofun
  · rw [literal, Attempt.quiet_verdict]
    split
    · exact nofun
    · exact nofun

theorem search_ne_leftover {regex : Regex} (pos : Position) :
    (search regex pos s).verdict ≠ .leftover t after := by
  rw [search]
  split
  · simp
  · simp

theorem closed_forward : Closed Forward where
  ending := by
    rintro (_ | ⟨x, rest⟩) s t after h
    · cases h
    · cases h
      exact Site.mem_positions_self _ _
  anywhere := nofun
  literal := fun _ pos _ _ _ h => absurd h (literal_ne_leftover pos)
  search := fun _ pos _ _ _ h => absurd h (search_ne_leftover pos)
  element := fun _ => forward_element
  framed := fun hc pos s => hc pos s.push
  capture := by
    intro name child hc pos s t after h
    rw [capture] at h
    dsimp only at h
    split at h
    · next valid => exact absurd h (by simp [valid])
    · exact hc _ _ _ _ h
  wildcard := forward_wildcard
  avoiding := by
    intro forbidden _ pos s t after h
    rw [Pattern.verdict_avoiding] at h
    exact absurd h (avoidingUntil_ne_leftover pos)
  avoidingUntil := fun _ _ pos _ _ _ h => absurd h (avoidingUntil_ne_leftover pos)
  many := forward_many
  either := by
    rintro branches next hb hn (_ | ⟨x, rest⟩) s t after h
    · cases h
    · exact forward_firstOf hb hn x rest h

end Matcher

namespace Pattern

/-- **What a pattern leaves over starts at its position or later.** -/
theorem forward_matcher (p : Pattern) : Matcher.Forward p.matcher :=
  matcher_of_closed Matcher.closed_forward p

theorem mem_positions_of_verdict {p : Pattern} {pos : Position} {t : Site} {after : List Site}
    (h : p.verdict pos = .leftover t after) : t :: after ∈ Site.positions pos :=
  p.forward_matcher pos .fresh t after h

end Pattern

/-! ### The rounds of a repetition as a loop -/

namespace Matcher

/-- The rounds of a repetition, which go on as long as one runs out before another node than the
one it started at; with the number of rounds that are run, and where they come to. -/
inductive Loop (child : Matcher) (s : Scope) : Bool → Position → Nat → Rounds → Prop
  | again {matched : Bool} {pos : Position} {n : Nat} {x : Site} {rest : List Site} {all : Rounds} :
      (child pos s.push).verdict = .leftover x rest →
      pos.head?.map Site.place ≠ some x.place →
      Loop child s true (x :: rest) n all →
      Loop child s matched pos (n + 1)
        { all with trace := (child pos s.push).trace ++ all.trace }
  | stuck {matched : Bool} {pos : Position} {x : Site} {rest : List Site} :
      (child pos s.push).verdict = .leftover x rest →
      pos.head?.map Site.place = some x.place →
      Loop child s matched pos 1 ⟨true, false, pos, (child pos s.push).trace⟩
  | ended {matched : Bool} {pos : Position} {text : Option String} :
      (child pos s.push).verdict = .valid text →
      Loop child s matched pos 1 ⟨true, true, pos, (child pos s.push).trace⟩
  | rejected {matched : Bool} {pos : Position} :
      (child pos s.push).verdict = .invalid →
      Loop child s matched pos 1 ⟨matched, false, pos, (child pos s.push).trace⟩

variable {child : Matcher} {s : Scope} {matched : Bool} {pos : Position}

/-- A round that runs out before another node leaves fewer nodes, and only then. -/
theorem shorter_iff {parent : List Nat} {index : Nat} {x : Site} {rest : List Site}
    (rooted : Site.Rooted parent index pos) (mem : x :: rest ∈ Site.positions pos) :
    Site.sizes (x :: rest) < Site.sizes pos ↔ pos.head?.map Site.place ≠ some x.place := by
  constructor
  · intro shorter same
    rcases pos with _ | ⟨y, rest'⟩
    · cases same
    · have path : x.place.path = y.place.path := by simp_all
      have eq := rooted.eq_of_path mem (Site.mem_positions_self y rest') path
      rw [eq] at shorter
      exact Nat.lt_irrefl _ shorter
  · intro other
    rcases Site.eq_or_sizes_lt_of_mem mem with same | shorter
    · exact absurd (by rw [← same]; rfl) other
    · exact shorter

/-- **The loop comes to its end**, where the rounds come to, after at most one round for each node
of the row and below it, and one. -/
theorem loop_rounds (hc : Forward child) (s : Scope) (matched : Bool) (pos : Position) :
    ∀ parent index, Site.Rooted parent index pos →
      ∃ n ≤ Site.sizes pos + 1, Loop child s matched pos n (rounds child matched pos s) := by
  fun_induction rounds child matched pos s with
  | case1 matched pos round x rest left shorter later ih =>
    intro parent index rooted
    have mem := hc _ _ _ _ left
    -- the next round may start below the row, where paths go on from another parent
    obtain ⟨parent', index', rooted'⟩ := rooted.of_mem mem
    obtain ⟨n, bound, loop⟩ := ih parent' index' rooted'
    exact ⟨n + 1, by omega, .again left ((shorter_iff rooted mem).mp shorter) loop⟩
  | case2 matched pos round x rest left longer =>
    intro parent index rooted
    have same := mt (shorter_iff rooted (hc _ _ _ _ left)).mpr longer
    exact ⟨1, by omega, .stuck left (not_ne_iff.mp same)⟩
  | case3 matched pos round text valid => exact fun _ _ _ => ⟨1, by omega, .ended valid⟩
  | case4 matched pos round invalid => exact fun _ _ _ => ⟨1, by omega, .rejected invalid⟩

/-- The loop takes one course. -/
theorem loop_unique {n n' : Nat} {all all' : Rounds} (h : Loop child s matched pos n all)
    (h' : Loop child s matched pos n' all') : n' = n ∧ all' = all := by
  induction h generalizing n' all' with
  | again left other _ ih =>
    cases h' with
    | again left' _ later' =>
      obtain ⟨rfl, rfl⟩ : _ ∧ _ := by simpa using left.symm.trans left'
      obtain ⟨rfl, rfl⟩ := ih later'
      exact ⟨rfl, rfl⟩
    | stuck left' same =>
      obtain ⟨rfl, rfl⟩ : _ ∧ _ := by simpa using left.symm.trans left'
      exact absurd same other
    | ended valid => exact absurd (left.symm.trans valid) nofun
    | rejected invalid => exact absurd (left.symm.trans invalid) nofun
  | stuck left same =>
    cases h' with
    | again left' other =>
      obtain ⟨rfl, rfl⟩ : _ ∧ _ := by simpa using left.symm.trans left'
      exact absurd same other
    | stuck => exact ⟨rfl, rfl⟩
    | ended valid => exact absurd (left.symm.trans valid) nofun
    | rejected invalid => exact absurd (left.symm.trans invalid) nofun
  | ended valid =>
    cases h' with
    | again left' => exact absurd (valid.symm.trans left') nofun
    | stuck left' => exact absurd (valid.symm.trans left') nofun
    | ended => exact ⟨rfl, rfl⟩
    | rejected invalid => exact absurd (valid.symm.trans invalid) nofun
  | rejected invalid =>
    cases h' with
    | again left' => exact absurd (invalid.symm.trans left') nofun
    | stuck left' => exact absurd (invalid.symm.trans left') nofun
    | ended valid => exact absurd (invalid.symm.trans valid) nofun
    | rejected => exact ⟨rfl, rfl⟩

end Matcher

namespace Pattern

/-- **Matching goes forward and comes to its end.** Behind the last sibling nothing is left over. At
a node of a document, what is left over starts at a node that is not blank, at this one or later in
document order, among this node, its following siblings and what is below them. A repetition that
starts there runs at most one round for each of these nodes, and one. -/
theorem matching_goes_forward (p : Pattern) (d : Document) (pos : Position) (s : Scope)
    (h : pos = [] ∨ pos ∈ d.positions) :
    (pos = [] → (p.matcher pos s).verdict.isLeftover = false) ∧
      (∀ t after, (p.matcher pos s).verdict = .leftover t after →
        t.isBlank = false ∧ t :: after ∈ Site.positions pos) ∧
      Site.positions pos <:+: d.positions ∧
      ∀ child : Pattern, ∃ n ≤ (Site.positions pos).length + 1,
        child.matcher.Loop s false pos n (child.matcher.rounds false pos s) ∧
          ∀ n' all, child.matcher.Loop s false pos n' all →
            n' = n ∧ all = child.matcher.rounds false pos s := by
  have stretch : Site.positions pos <:+: d.positions := by
    rcases h with rfl | mem
    · exact List.nil_infix
    · exact Site.positions_infix_of_mem mem
  have rooted : ∃ parent index, Site.Rooted parent index pos := by
    rcases h with rfl | mem
    · exact ⟨[], 0, .nil⟩
    · exact d.rooted_outline.of_mem mem
  refine ⟨?_, ?_, stretch, ?_⟩
  · rintro rfl
    cases e : (p.matcher [] s).verdict with
    | leftover t after => exact absurd (p.forward_matcher _ _ _ _ e) Site.not_mem_positions_nil
    | valid text => rfl
    | invalid => rfl
  · intro t after left
    have mem := p.forward_matcher _ _ _ _ left
    exact ⟨d.isBlank_of_mem (stretch.subset mem), mem⟩
  · intro child
    obtain ⟨parent, index, rooted⟩ := rooted
    obtain ⟨n, bound, loop⟩ :=
      Matcher.loop_rounds child.forward_matcher s false pos parent index rooted
    rw [Site.length_positions]
    exact ⟨n, bound, loop, fun n' all other => Matcher.loop_unique loop other⟩

/-- Behind a list, a repetition of items leaves the paragraph behind the last item over, after a
round for each item and one that is rejected. -/
theorem matching_goes_forward_behind_list :
    ∃ p q d pos t, Template.compile "<ul></ul>\x7bmany\x7d<li></li>\x7b/many\x7d" =
        .ok (node (.element "html") (node (.element "body") (node (.element "ul") nil p) nil) nil) ∧
      p = node .many q nil ∧
      Document.read "<ul></ul><li></li><li></li><p></p>" .lenient = .ok d ∧
      pos ∈ d.positions ∧ (p.matcher pos .fresh).verdict = .leftover t [] ∧
      t.describe = "<p>" ∧ t.isBlank = false ∧ [t] ∈ Site.positions pos ∧
      (Site.positions pos).length = 3 ∧
      q.matcher.Loop .fresh false pos 3 (q.matcher.rounds false pos .fresh) := by
  let q : Pattern := node (.element "li") nil nil
  let d : Document := ⟨[.element 0 "html" [] [.element 1 "body" [] [.element 2 "ul" [] [],
    .element 2 "li" [] [], .element 2 "li" [] [], .element 2 "p" [] []]]]⟩
  let item (i : Nat) : Site := .element ⟨[0, 0, i], 2⟩ "li" []
  let paragraph : Site := .element ⟨[0, 0, 3], 2⟩ "p" []
  have outline : d.outline = [.element ⟨[0], 0⟩ "html" [.element ⟨[0, 0], 1⟩ "body"
      [.element ⟨[0, 0, 0], 2⟩ "ul" [], item 1, item 2, paragraph]]] := by
    unfold d item paragraph
    cbv
  have mem : [item 1, item 2, paragraph] ∈ d.positions := by
    rw [Document.positions, outline]
    simp [Site.positions_cons]
  have left : ((node .many q nil).matcher [item 1, item 2, paragraph] .fresh).verdict =
      .leftover paragraph [] := by
    unfold q item paragraph
    cbv
  have first : (q.matcher [item 1, item 2, paragraph] Scope.fresh.push).verdict =
      .leftover (item 2) [paragraph] := by
    unfold q item
    cbv
  have second : (q.matcher [item 2, paragraph] Scope.fresh.push).verdict =
      .leftover paragraph [] := by
    unfold q item paragraph
    cbv
  have third : (q.matcher [paragraph] Scope.fresh.push).verdict = .invalid := by
    unfold q paragraph
    cbv
  have loop : q.matcher.Loop .fresh false [item 1, item 2, paragraph] 3 _ :=
    .again first (by decide) (.again second (by decide) (.rejected third))
  obtain ⟨-, forward, -, loops⟩ :=
    matching_goes_forward (node .many q nil) d _ .fresh (.inr mem)
  obtain ⟨visible, later⟩ := forward _ _ left
  obtain ⟨n, -, course, unique⟩ := loops q
  obtain ⟨rounds, -⟩ := unique _ _ loop
  rw [← rounds] at course
  exact ⟨_, q, d, _, _, by cbv, rfl, by cbv, mem, left, by cbv, visible, later, by cbv, course⟩

end Pattern

end Stencil
