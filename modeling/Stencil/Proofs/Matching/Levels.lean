import Stencil.Proofs.Matching.Soundness

/-!
# Matching — levels

Where the answer is not found inside an element, a match that keeps its levels is settled
(`Pattern.settled_of_level`). A pattern keeps its levels everywhere, if nothing can be left over in
the elements inside its repetitions and alternatives (`Pattern.level_of_safe`).
-/

namespace Stencil

namespace Pattern

variable {p child next : Pattern} {pos x y : Position} {parent : List Nat} {index : Nat}

/-- Nodes that are left over at a position are left over on its own row. -/
def OnRow (p : Pattern) (pos : Position) : Prop :=
  ∀ t after, p.verdict pos = .leftover t after → t :: after <:+ pos

theorem onRow_of_isValid (h : (p.verdict pos).isValid) : p.OnRow pos := by
  intro t after left
  rw [left] at h
  cases h

/-- A position that rounds on their own row lead to is on the row. -/
theorem suffix_of_rounds (stays : child.StaysOnRow pos)
    (reach : Relation.ReflTransGen child.Round pos x) : x <:+ pos := by
  induction reach with
  | refl => exact List.suffix_refl pos
  | tail reached step ih => exact (stays _ _ reached step).trans ih

/-- What a repetition goes on with is on the row, and so is what its child leaves over. -/
theorem onRow_many (stays : child.StaysOnRow pos)
    (reach : Relation.ReflTransGen child.Round pos x) : child.OnRow x := by
  intro t after left
  rcases Site.eq_or_sizes_lt_of_mem (mem_positions_of_verdict left) with same | shorter
  · rw [same]
  · exact stays x _ reach (.mk left shorter)

theorem settled_element {tag : String} {place : Place} {children rest : List Site}
    (rooted : Site.Rooted parent index (.element place tag children :: rest))
    (onRow : (node (.element tag) child next).OnRow (.element place tag children :: rest))
    (inner : child.OnRow children → child.Settled children)
    (later : next.OnRow rest → next.Settled rest) :
    (node (.element tag) child next).Settled (.element place tag children :: rest) := by
  rw [OnRow, verdict_element] at onRow
  cases e : child.verdict children with
  | valid text =>
    rw [e, Verdict.isValid_valid, if_pos rfl] at onRow
    refine .element (inner (onRow_of_isValid (by rw [e]; rfl))) (later fun t after left => ?_)
      (by simp [e])
    exact Site.suffix_of_mem (mem_positions_of_verdict left) (List.suffix_cons _ _)
      (onRow t after left)
  | leftover t after =>
    -- what is left over inside the element is not on the row of the element
    rw [e, Verdict.isValid_leftover, if_neg Bool.false_ne_true] at onRow
    exact absurd (onRow t after rfl)
      (rooted.not_suffix_of_mem_children (mem_positions_of_verdict e))
  | invalid =>
    refine .rejected ?_
    rw [verdict_element, e]
    rfl

theorem settled_wildcard (onRow : (node .wildcard child next).OnRow pos)
    (later : next.OnRow (next.stop pos) → next.Settled (next.stop pos)) :
    (node .wildcard child next).Settled pos := by
  by_cases last : next = nil
  · subst last
    exact .wildcard .nil
  · rw [OnRow, verdict_wildcard last] at onRow
    refine .wildcard (later fun t after left => ?_)
    have mem := mem_positions_of_verdict left
    have some : next.stop pos ≠ [] := by
      intro none
      rw [none] at mem
      exact Site.not_mem_positions_nil mem
    rw [verdictBehind, if_neg some] at onRow
    exact Site.suffix_of_mem mem (Position.seek_suffix pos) (onRow t after left)

/-- Where the rest of the chain is tried after a repetition is on the row. -/
theorem resume_suffix {resumed : Position} (stays : child.StaysOnRow pos)
    (h : child.resume? pos = some resumed) : resumed <:+ pos := by
  obtain ⟨x, reach, ⟨-, rfl⟩ | ⟨rfl, -⟩⟩ := resume_cases h
  · exact List.nil_suffix
  · exact suffix_of_rounds stays reach

theorem settled_many {resumed : Position} (onRow : (node .many child next).OnRow pos)
    (stays : child.StaysOnRow pos) (h : child.resume? pos = some resumed)
    (inner : ∀ x, Relation.ReflTransGen child.Round pos x → child.OnRow x → child.Settled x)
    (later : next.OnRow resumed → next.Settled resumed) :
    (node .many child next).Settled pos := by
  rw [OnRow, verdict_many, h] at onRow
  refine .many (fun x reach => inner x reach (onRow_many stays reach)) stays h
    (later fun t after left => ?_)
  exact Site.suffix_of_mem (mem_positions_of_verdict left) (resume_suffix stays h)
    (onRow t after left)

theorem settled_either {branch : Pattern} {s : Site} {rest : List Site} {resumed : Position}
    (onRow : (node .either child next).OnRow (s :: rest))
    (h : taken? s rest (child :: child.branchesAfter) = some (branch, resumed))
    (stays : resumed <:+ s :: rest)
    (inner : branch.OnRow (s :: rest) → branch.Settled (s :: rest))
    (later : next.OnRow resumed → next.Settled resumed) :
    (node .either child next).Settled (s :: rest) := by
  rw [OnRow, verdict_either_cons, h] at onRow
  refine .either h (inner ?_) stays (later fun t after left => ?_)
  · obtain ⟨-, ⟨valid, -⟩ | ⟨t, after, -, left, rfl⟩⟩ := taken_cases h
    · exact onRow_of_isValid valid
    · intro t' after' left'
      cases left.symm.trans left'
      exact stays
  · exact Site.suffix_of_mem (mem_positions_of_verdict left) stays (onRow t after left)

/-- **Where the answer is not inside an element, what is tried on its level is settled.** -/
theorem settled_of_level (h : p.Level pos) : ∀ parent index, Site.Rooted parent index pos →
    p.OnRow pos → p.Settled pos := by
  have keeps : p.Keeps False pos := h
  clear h
  induction keeps with
  | rejected invalid => exact fun _ _ _ _ => .rejected invalid
  | nil => exact fun _ _ _ _ => .nil
  | element _ _ _ ihc ihn =>
    intro parent index rooted onRow
    have all := rooted
    cases rooted with
    | cons _ rooted' rooted'' =>
      exact settled_element all onRow (ihc _ _ rooted') (ihn _ _ rooted'')
  | literal => exact fun _ _ _ _ => .literal
  | search => exact fun _ _ _ _ => .search
  | @wildcard child next pos _ ih =>
    intro parent index rooted onRow
    obtain ⟨index', rooted'⟩ := rooted.of_suffix (Position.seek_suffix pos)
    exact settled_wildcard onRow (ih parent index' rooted')
  | @unguarded next pos _ ih =>
    intro parent index rooted onRow
    by_cases last : next = nil
    · subst last
      exact .unguarded .nil
    · rw [OnRow, verdict_wildcardExcept_nil last] at onRow
      exact .unguarded (ih parent index rooted onRow)
  | @guarded child next pos hc _ ih =>
    intro parent index rooted _
    by_cases accepted : (node .wildcardExcept child next).verdict pos = .invalid
    · exact .rejected accepted
    · obtain ⟨index', rooted'⟩ := rooted.of_suffix (Position.seek_suffix pos)
      have served := (wildcardExcept_of_verdict hc accepted).2.1
      exact .guarded hc (ih parent index' rooted' (onRow_of_isValid served))
  | many _ stays resumed _ ihc ihn =>
    intro parent index rooted onRow
    refine settled_many onRow stays resumed (fun x reach => ?_) ?_
    · obtain ⟨index', rooted'⟩ := rooted.of_suffix (suffix_of_rounds stays reach)
      exact ihc x reach parent index' rooted'
    · obtain ⟨index', rooted'⟩ := rooted.of_suffix (resume_suffix stays resumed)
      exact ihn parent index' rooted'
  | scope _ ih =>
    intro parent index rooted onRow
    rw [OnRow, verdict_scope] at onRow
    exact .scope (ih parent index rooted onRow)
  | capture _ ih =>
    intro parent index rooted onRow
    rw [OnRow, verdict_capture] at onRow
    exact .capture (ih parent index rooted onRow)
  | either taken _ stays _ ihb ihn =>
    intro parent index rooted onRow
    obtain ⟨index', rooted'⟩ := rooted.of_suffix stays
    exact settled_either onRow taken stays (ihb parent index rooted) (ihn parent index' rooted')
  | option => exact fun _ _ _ _ => .option

/-! ### Patterns that keep their levels -/

/-- In no element of a pattern can children be left over. -/
def Tight : Pattern → Prop
  | nil => True
  | node kind child next =>
    child.Tight ∧ next.Tight ∧
      ∀ tag, kind = .element tag → ∀ pos, (child.verdict pos).isLeftover = false

/-- Wherever a pattern is tried, it keeps its levels, and what it leaves over is on the row. -/
def Even (p : Pattern) : Prop := ∀ pos, p.Level pos ∧ p.OnRow pos

theorem even_nil : nil.Even := by
  intro pos
  refine ⟨.nil, fun t after left => ?_⟩
  rcases pos with _ | ⟨s, rest⟩
  · rw [verdict_nil_nil] at left
    cases left
  · rw [verdict_nil_cons] at left
    cases left
    exact List.suffix_refl _

theorem even_element {tag : String} (hc : child.Even) (hn : next.Even)
    (full : ∀ pos, (child.verdict pos).isLeftover = false) :
    (node (.element tag) child next).Even := by
  intro pos
  by_cases accepted : (node (.element tag) child next).verdict pos = .invalid
  · exact ⟨.rejected accepted, fun t after left => absurd (accepted.symm.trans left) nofun⟩
  · obtain ⟨place, children, rest, rfl⟩ := element_of_verdict accepted
    refine ⟨.element (hc children).1 (hn rest).1 nofun, fun t after left => ?_⟩
    rw [verdict_element] at left
    split at left
    · exact ((hn rest).2 t after left).trans (List.suffix_cons _ _)
    · have none := full children
      rw [left] at none
      cases none

theorem even_wildcard (hn : next.Even) : (node .wildcard child next).Even := by
  intro pos
  refine ⟨.wildcard (hn _).1, fun t after left => ?_⟩
  by_cases last : next = nil
  · subst last
    rw [verdict_wildcard_nil] at left
    cases left
  · rw [verdict_wildcard last, verdictBehind] at left
    split at left
    · split at left
      · cases left
      · cases left
    · exact ((hn _).2 t after left).trans (Position.seek_suffix pos)

theorem even_wildcardExcept (hn : next.Even) : (node .wildcardExcept child next).Even := by
  intro pos
  by_cases free : child = nil
  · subst free
    refine ⟨.unguarded (hn pos).1, fun t after left => ?_⟩
    by_cases last : next = nil
    · subst last
      rw [verdict_wildcardExcept_nil_nil] at left
      cases left
    · rw [verdict_wildcardExcept_nil last] at left
      exact (hn pos).2 t after left
  · refine ⟨.guarded free (hn _).1, fun t after left => ?_⟩
    have valid := (wildcardExcept_of_verdict free (by rw [left]; exact nofun)).1
    rw [left] at valid
    cases valid

theorem stays_of_even (h : child.Even) (pos : Position) : child.StaysOnRow pos := by
  intro x y _ step
  cases step with
  | mk left _ => exact (h x).2 _ _ left

theorem taken_suffix (hb : ∀ b ∈ child :: child.branchesAfter, b.Even) {branch : Pattern}
    {s : Site} {rest : List Site} {resumed : Position}
    (h : taken? s rest (child :: child.branchesAfter) = some (branch, resumed)) :
    resumed <:+ s :: rest := by
  obtain ⟨mem, ⟨-, rfl⟩ | ⟨t, after, -, left, rfl⟩⟩ := taken_cases h
  · exact List.suffix_cons s _
  · exact (hb branch mem _).2 t after left

theorem level_many (hc : child.Even) (hn : ∀ pos, next.Level pos) (pos : Position) :
    (node .many child next).Level pos := by
  cases e : child.resume? pos with
  | none => exact .rejected (by rw [verdict_many, e]; rfl)
  | some resumed => exact .many (fun x _ => (hc x).1) (stays_of_even hc pos) e (hn resumed)

theorem level_either (hb : ∀ b ∈ child :: child.branchesAfter, b.Even)
    (hn : ∀ pos, next.Level pos) (pos : Position) : (node .either child next).Level pos := by
  rcases pos with _ | ⟨s, rest⟩
  · exact .rejected verdict_either_nil
  · cases e : taken? s rest (child :: child.branchesAfter) with
    | none => exact .rejected (by rw [verdict_either_cons, e]; rfl)
    | some taken =>
      obtain ⟨branch, resumed⟩ := taken
      exact .either e (hb branch (taken_cases e).1 _).1 (taken_suffix hb e) (hn resumed)

theorem even_many (hc : child.Even) (hn : next.Even) : (node .many child next).Even := by
  intro pos
  refine ⟨level_many hc (fun pos => (hn pos).1) pos, fun t after left => ?_⟩
  rw [verdict_many] at left
  cases e : child.resume? pos with
  | none =>
    rw [e] at left
    cases left
  | some resumed =>
    rw [e] at left
    exact ((hn resumed).2 t after left).trans (resume_suffix (stays_of_even hc pos) e)

theorem even_either (hb : ∀ b ∈ child :: child.branchesAfter, b.Even) (hn : next.Even) :
    (node .either child next).Even := by
  intro pos
  refine ⟨level_either hb (fun pos => (hn pos).1) pos, fun t after left => ?_⟩
  rcases pos with _ | ⟨s, rest⟩
  · rw [verdict_either_nil] at left
    cases left
  · rw [verdict_either_cons] at left
    cases e : taken? s rest (child :: child.branchesAfter) with
    | none =>
      rw [e] at left
      cases left
    | some taken =>
      rw [e] at left
      exact ((hn taken.2).2 t after left).trans (taken_suffix hb e)

/-- The branches of an alternative are chains too, so they come along in the induction. -/
theorem even_of_tight (p : Pattern) (h : p.Tight) : p.Even ∧ ∀ b ∈ p.branchesAfter, b.Even := by
  induction p with
  | nil => exact ⟨even_nil, nofun⟩
  | node kind child next ihc ihn =>
    obtain ⟨hc, hn, full⟩ := h
    obtain ⟨evenc, branches⟩ := ihc hc
    obtain ⟨evenn, later⟩ := ihn hn
    constructor
    · cases kind with
      | element tag => exact even_element evenc evenn (full tag rfl)
      | literal content =>
        refine fun pos => ⟨.literal, fun t after left => ?_⟩
        rw [verdict_literal] at left
        exact absurd left (Matcher.literal_ne_leftover pos)
      | search regex =>
        refine fun pos => ⟨.search, fun t after left => ?_⟩
        rw [verdict_search] at left
        exact absurd left (Matcher.search_ne_leftover pos)
      | wildcard => exact even_wildcard evenn
      | wildcardExcept => exact even_wildcardExcept evenn
      | many => exact even_many evenc evenn
      | scope =>
        refine fun pos => ⟨.scope (evenc pos).1, fun t after left => ?_⟩
        rw [verdict_scope] at left
        exact (evenc pos).2 t after left
      | capture name =>
        refine fun pos => ⟨.capture (evenc pos).1, fun t after left => ?_⟩
        rw [verdict_capture] at left
        exact (evenc pos).2 t after left
      | either => exact even_either (List.forall_mem_cons.mpr ⟨evenc, branches⟩) evenn
      | option =>
        refine fun pos => ⟨.option, fun t after left => ?_⟩
        rw [verdict_option] at left
        cases left
    · intro b mem
      cases kind with
      | option =>
        rw [branchesAfter] at mem
        rcases List.mem_cons.mp mem with rfl | mem
        · exact evenn
        · exact later b mem
      | _ => exact later b (by simpa only [branchesAfter] using mem)

/-- In no element inside a repetition or an alternative of a pattern can children be left over. -/
def Safe : Pattern → Prop
  | nil => True
  | node kind child next =>
    next.Safe ∧
      match kind with
      | .many | .either => child.Tight
      | _ => child.Safe

/-- **A pattern keeps its levels everywhere, if no repetition and no alternative of it can go on
inside an element.** -/
theorem level_of_safe (p : Pattern) (h : p.Safe) (pos : Position) : p.Level pos := by
  induction p generalizing pos with
  | nil => exact .nil
  | node kind child next ihc ihn =>
    obtain ⟨hn, hc⟩ := h
    cases kind with
    | element tag =>
      by_cases accepted : (node (.element tag) child next).verdict pos = .invalid
      · exact .rejected accepted
      · obtain ⟨place, children, rest, rfl⟩ := element_of_verdict accepted
        exact .element (ihc hc children) (ihn hn rest) nofun
    | literal content => exact .literal
    | search regex => exact .search
    | wildcard => exact .wildcard (ihn hn _)
    | wildcardExcept =>
      by_cases free : child = nil
      · subst free
        exact .unguarded (ihn hn pos)
      · exact .guarded free (ihn hn _)
    | many => exact level_many (child.even_of_tight hc).1 (ihn hn) pos
    | scope => exact .scope (ihc hc pos)
    | capture name => exact .capture (ihc hc pos)
    | either =>
      obtain ⟨first, later⟩ := child.even_of_tight hc
      exact level_either (List.forall_mem_cons.mpr ⟨first, later⟩) (ihn hn) pos
    | option => exact .option

end Pattern

end Stencil
