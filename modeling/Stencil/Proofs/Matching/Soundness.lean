import Stencil.Proofs.Matching.Cut
import Stencil.Proofs.Matching.Language
import Stencil.Proofs.Matching.Progress

/-!
# Matching — what is matched

A verdict that does not reject a row matches it, or what of it stands before the nodes that are left
over (`Verdict.matched`). What is matched is in the language of the pattern, where all parts of this
one are settled (`Pattern.sound_of_settled`).
-/

namespace Stencil

/-- What is matched of a row by a verdict that does not reject it: what stands before the nodes that
are left over. -/
def Verdict.matched (row : List Site) : Verdict → Option (List Site)
  | valid _ => some row
  | leftover t _ => some (Site.before t.place.path row)
  | invalid => none

namespace Pattern

/-- What a pattern matches at a position is in its language. -/
def Sound (p : Pattern) (pos : Position) : Prop :=
  ∀ parent index, Site.Rooted parent index pos →
    ∀ row, (p.verdict pos).matched pos = some row → p.Denotes row

variable {p child next : Pattern} {pos x y : Position} {parent : List Nat} {index : Nat}

/-- What a verdict on the end of a row matches of the whole row. -/
theorem matched_append (rooted : Site.Rooted parent index (x ++ y)) :
    (p.verdict y).matched (x ++ y) = ((p.verdict y).matched y).map (x ++ ·) := by
  cases e : p.verdict y with
  | valid text => rfl
  | leftover t after =>
    exact congrArg some (Site.before_append rooted (mem_positions_of_verdict e))
  | invalid => rfl

theorem matched_of_isValid (h : (p.verdict pos).isValid) :
    (p.verdict pos).matched pos = some pos := by
  obtain ⟨text, e⟩ := (p.verdict pos).isValid_iff.mp h
  rw [e, Verdict.matched]

/-- Nodes that are left over on the row itself start where the matched part ends. -/
theorem matched_of_leftover {t : Site} {after : List Site}
    (rooted : Site.Rooted parent index (x ++ t :: after))
    (h : p.verdict (x ++ t :: after) = .leftover t after) :
    (p.verdict (x ++ t :: after)).matched (x ++ t :: after) = some x := by
  rw [h, Verdict.matched, Site.before_append rooted (Site.mem_positions_self t after),
    Site.before_head, List.append_nil]

/-- Behind a wildcard, what the rest of the chain matches of a row is matched. -/
theorem matched_of_verdictBehind {row whole : List Site}
    (h : (next.verdictBehind pos).matched whole = some row) :
    (next.verdict pos).matched whole = some row := by
  rw [verdictBehind] at h
  by_cases last : pos = []
  · subst last
    rw [if_pos rfl] at h
    split at h
    · next valid =>
      obtain ⟨text, e⟩ := (next.verdict []).isValid_iff.mp valid
      rw [e]
      exact h
    · cases h
  · rwa [if_neg last] at h

/-! ### The rounds of a repetition -/

theorem sizes_lt_of_rounds (h : Relation.TransGen p.Round x y) :
    Site.sizes y < Site.sizes x := by
  induction h with
  | single step =>
    cases step with
    | mk _ shorter => exact shorter
  | tail _ step ih =>
    cases step with
    | mk _ shorter => exact shorter.trans ih

/-- Rounds that stay on their row cut it into rows of the language of the child. -/
theorem denotes_of_rounds (rooted : Site.Rooted parent index pos)
    (sound : ∀ x, Relation.ReflTransGen child.Round pos x → child.Sound x)
    (stays : child.StaysOnRow pos)
    (reach : Relation.ReflTransGen child.Round pos x) :
    ∃ rounds : List (List Site), pos = rounds.flatten ++ x ∧ ∀ r ∈ rounds, child.Denotes r := by
  induction reach with
  | refl => exact ⟨[], rfl, nofun⟩
  | @tail b c reached step ih =>
    obtain ⟨rounds, cut, each⟩ := ih
    obtain ⟨g, rfl⟩ := stays b c reached step
    obtain ⟨index', rooted'⟩ := rooted.of_suffix ⟨rounds.flatten, cut.symm⟩
    have last : child.Denotes g := by
      generalize e : g ++ c = b at step
      cases step with
      | mk left shorter =>
        subst e
        exact sound _ reached parent index' rooted' _ (matched_of_leftover rooted' left)
    refine ⟨rounds ++ [g], by simp [cut], ?_⟩
    exact List.forall_mem_append.mpr ⟨each, List.forall_mem_singleton.mpr last⟩

/-- Up to where the rest of the chain is tried, the row is one or more rows of the language of the
child. -/
theorem denotes_of_resume {resumed : Position} (rooted : Site.Rooted parent index pos)
    (sound : ∀ x, Relation.ReflTransGen child.Round pos x → child.Sound x)
    (stays : child.StaysOnRow pos) (h : child.resume? pos = some resumed) :
    ∃ rounds : List (List Site), rounds ≠ [] ∧ pos = rounds.flatten ++ resumed ∧
      ∀ r ∈ rounds, child.Denotes r := by
  obtain ⟨x, reach, ends⟩ := resume_cases h
  obtain ⟨rounds, rfl, each⟩ := denotes_of_rounds rooted sound stays reach
  obtain ⟨index', rooted'⟩ := rooted.of_suffix (List.suffix_append rounds.flatten x)
  rcases ends with ⟨valid, rfl⟩ | ⟨rfl, ⟨t, after, left, longer⟩ | reached⟩
  · -- the last round takes what is left of the row
    have whole := sound x reach parent index' rooted' x (matched_of_isValid valid)
    refine ⟨rounds ++ [x], by simp, by simp, ?_⟩
    exact List.forall_mem_append.mpr ⟨each, List.forall_mem_singleton.mpr whole⟩
  · -- the last round matches no node
    have same : t :: after = resumed :=
      (Site.eq_or_sizes_lt_of_mem (mem_positions_of_verdict left)).resolve_right (by omega)
    subst same
    have none := sound _ reach parent index' rooted' []
      (matched_of_leftover (x := []) rooted' left)
    refine ⟨rounds ++ [[]], by simp, by simp, ?_⟩
    exact List.forall_mem_append.mpr ⟨each, List.forall_mem_singleton.mpr none⟩
  · refine ⟨rounds, ?_, rfl, each⟩
    rintro rfl
    exact absurd (sizes_lt_of_rounds reached) (by simp)

theorem sound_many {resumed : Position}
    (sound : ∀ x, Relation.ReflTransGen child.Round pos x → child.Sound x)
    (stays : child.StaysOnRow pos) (h : child.resume? pos = some resumed)
    (later : next.Sound resumed) : (node .many child next).Sound pos := by
  intro parent index rooted row h'
  obtain ⟨rounds, some, rfl, each⟩ := denotes_of_resume rooted sound stays h
  obtain ⟨index', rooted'⟩ := rooted.of_suffix (List.suffix_append rounds.flatten resumed)
  rw [verdict_many, h, Option.map_some, Option.getD_some, matched_append rooted] at h'
  obtain ⟨row', e, rfl⟩ := Option.map_eq_some_iff.mp h'
  exact .many rounds some each (later parent index' rooted' row' e)

/-! ### The other kinds -/

theorem sound_nil : nil.Sound pos := by
  intro parent index _ row h
  rcases pos with _ | ⟨s, rest⟩
  · rw [verdict_nil_nil] at h
    cases h
    exact .nil
  · rw [verdict_nil_cons, Verdict.matched, Site.before_head] at h
    cases h
    exact .nil

theorem sound_element {tag : String} {place : Place} {children rest : List Site}
    (inner : child.Sound children) (later : next.Sound rest)
    (settled : (child.verdict children).isLeftover → (next.verdict rest).isValid) :
    (node (.element tag) child next).Sound (.element place tag children :: rest) := by
  intro parent index rooted row h
  rw [verdict_element] at h
  obtain ⟨rooted', rooted''⟩ : Site.Rooted (parent ++ [index]) 0 children ∧
      Site.Rooted parent (index + 1) rest := by
    cases rooted with
    | cons _ rooted' rooted'' => exact ⟨rooted', rooted''⟩
  cases e : child.verdict children with
  | valid text =>
    have all := inner _ _ rooted' children (matched_of_isValid (by rw [e]; rfl))
    rw [e, Verdict.isValid_valid, if_pos rfl, ← List.singleton_append,
      matched_append rooted] at h
    obtain ⟨row', e', rfl⟩ := Option.map_eq_some_iff.mp h
    exact .element all (later _ _ rooted'' row' e')
  | leftover t after =>
    -- the node is cut off inside the element, and the rest of the chain takes the rest of the row
    have some := inner _ _ rooted' (Site.before t.place.path children) (by rw [e]; rfl)
    have all := later _ _ rooted'' rest (matched_of_isValid (settled (by rw [e]; rfl)))
    rw [e, Verdict.isValid_leftover, if_neg Bool.false_ne_true, Verdict.matched,
      Site.before_of_mem_children rooted (mem_positions_of_verdict e)] at h
    cases h
    exact .element some all
  | invalid =>
    rw [e, Verdict.isValid_invalid, if_neg Bool.false_ne_true] at h
    cases h

theorem sound_literal {content : String} : (node (.literal content) child next).Sound pos := by
  intro parent index _ row h
  rw [verdict_literal] at h
  rcases pos with _ | ⟨⟨place, name, children⟩ | ⟨place, text⟩, rest⟩
  · cases h
  · cases h
  · rw [Matcher.literal, Attempt.quiet_verdict] at h
    split at h
    · next same =>
      cases h
      rw [same]
      exact .literal
    · cases h

theorem sound_search {regex : Regex} : (node (.search regex) child next).Sound pos := by
  intro parent index _ row h
  rw [verdict_search, Matcher.search] at h
  split at h
  · next found =>
    cases h
    obtain ⟨starts, found⟩ := Bool.and_eq_true_iff.mp found
    exact .search starts found
  · cases h

theorem sound_wildcard (later : next.Sound (next.stop pos)) :
    (node .wildcard child next).Sound pos := by
  intro parent index rooted row h
  by_cases last : next = nil
  · subst last
    rw [verdict_wildcard_nil] at h
    cases h
    rw [← List.append_nil pos]
    exact .wildcard pos .nil
  · rw [verdict_wildcard last] at h
    replace h := matched_of_verdictBehind h
    obtain ⟨skipped, cut⟩ : next.stop pos <:+ pos := Position.seek_suffix pos
    generalize next.stop pos = x at later h cut
    subst cut
    obtain ⟨index', rooted'⟩ := rooted.of_suffix (List.suffix_append skipped x)
    rw [matched_append rooted] at h
    obtain ⟨row', e', rfl⟩ := Option.map_eq_some_iff.mp h
    exact .wildcard skipped (later _ _ rooted' row' e')

theorem sound_unguarded (h : next.Sound pos) : (node .wildcardExcept nil next).Sound pos := by
  intro parent index rooted row h'
  by_cases last : next = nil
  · subst last
    exact .anything
  · rw [verdict_wildcardExcept_nil last] at h'
    exact .unguarded last (h parent index rooted row h')

theorem sound_guarded (hc : child ≠ nil) (later : next.Sound (next.haven pos)) :
    (node .wildcardExcept child next).Sound pos := by
  intro parent index rooted row h
  have accepted : (node .wildcardExcept child next).verdict pos ≠ .invalid := by
    intro invalid
    rw [invalid] at h
    cases h
  obtain ⟨valid, served, skipped, cut, along⟩ := wildcardExcept_of_verdict hc accepted
  rw [matched_of_isValid valid] at h
  cases h
  obtain ⟨index', rooted'⟩ := rooted.of_suffix ⟨skipped, cut.symm⟩
  have rest := later _ _ rooted' _ (matched_of_isValid served)
  rw [cut]
  exact .guarded skipped hc along rest

theorem sound_scope (h : child.Sound pos) : (node .scope child next).Sound pos := by
  intro parent index rooted row h'
  rw [verdict_scope] at h'
  exact .scope (h parent index rooted row h')

theorem sound_capture {name : String} (h : child.Sound pos) :
    (node (.capture name) child next).Sound pos := by
  intro parent index rooted row h'
  rw [verdict_capture] at h'
  exact .capture (h parent index rooted row h')

theorem sound_either {branch : Pattern} {s : Site} {rest : List Site} {resumed : Position}
    (h : taken? s rest (child :: child.branchesAfter) = some (branch, resumed))
    (inner : branch.Sound (s :: rest)) (stays : resumed <:+ s :: rest)
    (later : next.Sound resumed) : (node .either child next).Sound (s :: rest) := by
  intro parent index rooted row h'
  rw [verdict_either_cons, h, Option.map_some, Option.getD_some] at h'
  obtain ⟨mem, ⟨valid, rfl⟩ | ⟨t, after, last, left, rfl⟩⟩ := taken_cases h
  · obtain ⟨index', rooted'⟩ := rooted.of_suffix stays
    rw [← List.singleton_append, matched_append rooted] at h'
    obtain ⟨row', e, rfl⟩ := Option.map_eq_some_iff.mp h'
    exact .either resumed mem (inner parent index rooted _ (matched_of_isValid valid))
      (later parent index' rooted' row' e)
  · -- the last branch takes the front of the row, up to where it runs out
    obtain ⟨front, cut⟩ := stays
    obtain ⟨index', rooted'⟩ := rooted.of_suffix ⟨front, cut⟩
    rw [← cut] at rooted h' left inner
    have first := inner parent index rooted front (matched_of_leftover rooted left)
    rw [matched_append rooted] at h'
    obtain ⟨row', e, rfl⟩ := Option.map_eq_some_iff.mp h'
    exact .eitherLast front last first (later parent index' rooted' row' e)

/-- **What is matched is in the language of the pattern**, where all parts of it are settled. -/
theorem sound_of_settled (h : p.Settled pos) : p.Sound pos := by
  have keeps : p.Keeps True pos := h
  clear h
  induction keeps with
  | rejected invalid =>
    intro _ _ _ row h
    rw [invalid] at h
    cases h
  | nil => exact sound_nil
  | element _ _ settled ihc ihn => exact sound_element ihc ihn (settled trivial)
  | literal => exact sound_literal
  | search => exact sound_search
  | wildcard _ ih => exact sound_wildcard ih
  | unguarded _ ih => exact sound_unguarded ih
  | guarded hc _ ih => exact sound_guarded hc ih
  | many _ stays resumed _ ihc ihn => exact sound_many ihc stays resumed ihn
  | scope _ ih => exact sound_scope ih
  | capture _ ih => exact sound_capture ih
  | either taken _ stays _ ihb ihn => exact sound_either taken ihb stays ihn
  | option => exact fun _ _ _ _ _ => .option

end Pattern

end Stencil
