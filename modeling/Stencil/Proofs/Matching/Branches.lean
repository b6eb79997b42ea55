import Mathlib.Data.List.Basic
import Stencil.Proofs.Matching.Wildcards

/-!
# Matching — where an alternative goes on

An alternative whose branches are rows of elements takes the first branch that fits the siblings at
its position. The rest of its chain is then tried behind one sibling, whatever the length of the
branch; only a last branch that leaves siblings over hands them on
(`Pattern.either_goes_on_behind_branch`). So a branch of two elements that fits does not stand for
two siblings (`Pattern.long_branch_stands_for_one`).
-/

namespace Stencil

namespace Pattern

/-! ### Rows of elements -/

/-- A branch that asks for a row of elements: each by its name and the chain of its children. -/
abbrev Branch := List (String × Pattern)

/-- A chain that asks for elements, each with its name and the chain of its children, one after
another, and then goes on with another chain. -/
def elements : Branch → Pattern → Pattern
  | [], next => next
  | (tag, child) :: branch, next => node (.element tag) child (elements branch next)

/-- The elements of a row match the first siblings at a position, one each: the names are the same,
and the children are valid. -/
def fits : Branch → Position → Bool
  | [], _ => true
  | (tag, child) :: branch, .element _ name children :: rest =>
    name = tag && (child.verdict children).isValid && fits branch rest
  | _ :: _, _ => false

/-- The first element of a row that does not match its sibling has children left over there. -/
def spills : Branch → Position → Bool
  | (tag, child) :: branch, .element _ name children :: rest =>
    name = tag &&
      if (child.verdict children).isValid then spills branch rest
      else (child.verdict children).isLeftover
  | _, _ => false

/-- A chain that falls into branches, each of them a row of elements and not empty. What stands
below an end of a branch is never looked at. -/
inductive FallsInto : Pattern → List Branch → Prop
  | last {branch : Branch} : branch ≠ [] → FallsInto (elements branch nil) [branch]
  | more {branch : Branch} {branches : List Branch} {below next : Pattern} : branch ≠ [] →
      FallsInto next branches →
      FallsInto (elements branch (node .option below next)) (branch :: branches)

variable {branch : Branch} {branches : List Branch} {child next tail : Pattern} {pos : Position}
  {s : Scope}

theorem not_fits_nil (h : branch ≠ []) : fits branch [] = false := by
  cases branch with
  | nil => exact absurd rfl h
  | cons item branch => rfl

theorem laterBranches_elements (branch : Branch) (tail : Pattern) :
    (elements branch tail).laterBranches = tail.laterBranches := by
  induction branch with
  | nil => rfl
  | cons item branch ih => exact ih

/-! ### What a branch of elements comes to -/

/-- A row of elements that fits is followed by what comes after it. -/
theorem verdict_elements (h : fits branch pos) (tail : Pattern) :
    (elements branch tail).verdict pos = tail.verdict (pos.drop branch.length) := by
  induction branch generalizing pos with
  | nil => rfl
  | cons item branch ih =>
    obtain ⟨tag, child⟩ := item
    rcases pos with _ | ⟨⟨place, name, children⟩ | ⟨place, content⟩, rest⟩
    · cases h
    · rw [fits, Bool.and_eq_true, Bool.and_eq_true, decide_eq_true_iff] at h
      obtain ⟨⟨rfl, valid⟩, later⟩ := h
      rw [elements, verdict_element, if_pos valid, ih later]
      rfl
    · cases h

/-- A row of elements that does not fit is not valid, whatever comes after it, and leaves over what
is left over in an element. -/
theorem verdict_elements_of_not_fits (h : fits branch pos = false) (tail : Pattern) :
    ((elements branch tail).verdict pos).isValid = false ∧
      ((elements branch tail).verdict pos).isLeftover = spills branch pos := by
  induction branch generalizing pos with
  | nil => cases h
  | cons item branch ih =>
    obtain ⟨tag, child⟩ := item
    rw [elements]
    rcases pos with _ | ⟨⟨place, name, children⟩ | ⟨place, content⟩, rest⟩
    · rw [verdict_element_of_ne (by simp)]
      exact ⟨rfl, rfl⟩
    · by_cases same : name = tag
      · subst same
        rw [verdict_element, spills, decide_eq_true rfl, Bool.true_and]
        rw [fits, decide_eq_true rfl, Bool.true_and] at h
        split
        · next valid =>
          rw [valid, Bool.true_and] at h
          exact ih h
        · next notValid => exact ⟨by simpa using notValid, rfl⟩
      · rw [verdict_element_of_ne (by simpa [Site.name?] using same), spills]
        exact ⟨rfl, by simp [same]⟩
    · rw [verdict_element_of_ne (by simp [Site.name?])]
      exact ⟨rfl, rfl⟩

/-- What the siblings of an element bind is all that the element takes from them. -/
theorem scope_element_congr {tag : String} {child next next' : Matcher}
    (same : ∀ pos s, (next pos s).scope = (next' pos s).scope) (pos : Position) (s : Scope) :
    (Matcher.element tag child next pos s).scope =
      (Matcher.element tag child next' pos s).scope := by
  rcases pos with _ | ⟨⟨place, name, children⟩ | ⟨place, content⟩, rest⟩
  · rfl
  · rw [Matcher.element, Matcher.element]
    split
    · dsimp only
      split
      · rw [same]
      · rfl
    · rfl
  · rfl

/-- The scope that a row of elements returns is the same before an end of a branch and at the end of
the chain. -/
theorem scope_elements (keeps : ∀ pos s, (tail.matcher pos s).scope = s) (pos : Position)
    (s : Scope) :
    ((elements branch tail).matcher pos s).scope = ((elements branch nil).matcher pos s).scope := by
  induction branch generalizing pos s with
  | nil =>
    rw [elements, elements, keeps, matcher, Matcher.scope_ending]
  | cons item branch ih =>
    rw [elements, elements, matcher, matcher]
    exact scope_element_congr ih pos s

/-! ### The branch that is taken -/

/-- Where the rest of the chain is tried after a branch that fits, with the branches behind it:
behind one sibling, or behind all elements of the last branch, if it leaves siblings over. -/
def resumed (branch : Branch) (after : List Branch) (pos : Position) : Position :=
  if after = [] ∧ branch.length < pos.length then pos.drop branch.length else pos.drop 1

theorem FallsInto.branches_ne_nil (h : child.FallsInto branches) : branches ≠ [] := by
  cases h with
  | last => exact List.cons_ne_nil _ _
  | more => exact List.cons_ne_nil _ _

theorem FallsInto.ne_nil_of_mem (h : child.FallsInto branches) (mem : branch ∈ branches) :
    branch ≠ [] := by
  induction h with
  | last given =>
    obtain rfl := List.mem_singleton.mp mem
    exact given
  | more given _ ih =>
    rcases List.mem_cons.mp mem with rfl | later
    · exact given
    · exact ih later

section Siblings

variable {next : Matcher} {x : Site} {rest : List Site}

/-- The last branch goes on behind the sibling if it fits all siblings, and else where it leaves
off. -/
theorem firstOf_last (h : fits branch (x :: rest)) :
    ∃ trace, Matcher.firstOf next x rest s [(elements branch nil).matcher] =
      (next (resumed branch [] (x :: rest))
        ((elements branch nil).matcher (x :: rest) s).scope).after trace := by
  have answer := verdict_elements h nil
  rw [← verdict_matcher _ _ s] at answer
  cases left : (x :: rest).drop branch.length with
  | nil =>
    rw [left, verdict_nil_nil] at answer
    have whole := List.drop_eq_nil_iff.mp left
    rw [Matcher.firstOf_of_valid _ answer, resumed, if_neg fun long => absurd long.2 whole.not_gt]
    exact ⟨_, rfl⟩
  | cons y after =>
    rw [left, verdict_nil_cons] at answer
    have longer : branch.length < (x :: rest).length := by
      rw [← not_le, ← List.drop_eq_nil_iff, left]
      exact List.cons_ne_nil y after
    rw [Matcher.firstOf_last_of_leftover _ answer, resumed, if_pos ⟨rfl, longer⟩, left]
    exact ⟨_, rfl⟩

/-- **The first branch that fits is taken.** -/
theorem firstOf_of_fits (falls : child.FallsInto branches) {before after : List Branch}
    (cut : branches = before ++ branch :: after) (unfit : ∀ r ∈ before, fits r (x :: rest) = false)
    (h : fits branch (x :: rest)) :
    ∃ trace, Matcher.firstOf next x rest s (child.matcher :: child.laterBranches) =
      (next (resumed branch after (x :: rest))
        ((elements branch nil).matcher (x :: rest) s).scope).after trace := by
  induction falls generalizing before with
  | @last branch' =>
    obtain ⟨rfl, rfl, rfl⟩ : before = [] ∧ branch' = branch ∧ after = [] := by
      cases before with
      | nil => simpa using cut
      | cons r before => simp at cut
    rw [laterBranches_elements, laterBranches]
    exact firstOf_last h
  | @more branch' branches below next' _ later ih =>
    rw [laterBranches_elements, laterBranches]
    cases before with
    | nil =>
      obtain ⟨rfl, rfl⟩ := List.cons.inj cut
      have answer := verdict_elements h (node .option below next')
      rw [verdict_option, ← verdict_matcher _ _ s] at answer
      rw [Matcher.firstOf_of_valid _ answer, resumed, if_neg (by simp [later.branches_ne_nil]),
        scope_elements fun _ _ => by rw [matcher]; rfl]
      exact ⟨_, rfl⟩
    | cons r before =>
      obtain ⟨rfl, behind⟩ := List.cons.inj cut
      obtain ⟨here, unfit⟩ := List.forall_mem_cons.mp unfit
      have notValid := (verdict_elements_of_not_fits here (node .option below next')).1
      rw [← verdict_matcher _ _ s] at notValid
      obtain ⟨trace, taken⟩ := ih behind unfit
      rw [Matcher.firstOf_of_not_valid _ notValid (List.cons_ne_nil _ _), taken,
        Attempt.after_after]
      exact ⟨_, rfl⟩

/-- Where no branch fits, and no children are left over in the last one, there is nothing to go on
with. -/
theorem firstOf_of_unfit (falls : child.FallsInto branches)
    (unfit : ∀ r ∈ branches, fits r (x :: rest) = false)
    (dry : ∀ r ∈ branches.getLast?, spills r (x :: rest) = false) :
    ∃ trace, Matcher.firstOf next x rest s (child.matcher :: child.laterBranches) =
      ⟨.invalid, s, trace⟩ := by
  induction falls with
  | @last branch' =>
    obtain ⟨notValid, left⟩ := verdict_elements_of_not_fits (unfit branch' List.mem_cons_self) nil
    rw [dry branch' rfl] at left
    rw [laterBranches_elements, laterBranches]
    refine ⟨_, Matcher.firstOf_last_of_invalid _ ?_⟩
    rw [verdict_matcher]
    exact Verdict.eq_invalid notValid left
  | @more branch' branches below next' _ later ih =>
    rw [laterBranches_elements, laterBranches]
    obtain ⟨here, unfit⟩ := List.forall_mem_cons.mp unfit
    have notValid := (verdict_elements_of_not_fits here (node .option below next')).1
    rw [← verdict_matcher _ _ s] at notValid
    obtain ⟨trace, none⟩ := ih unfit fun r mem => dry r (by
      rw [List.getLast?_cons_of_ne_nil later.branches_ne_nil]
      exact mem)
    rw [Matcher.firstOf_of_not_valid _ notValid (List.cons_ne_nil _ _), none]
    exact ⟨_, rfl⟩

end Siblings

/-- **An alternative goes on behind the first branch that fits.** Where its branches are rows of
elements, none of them empty, it comes to the verdict and the scope that the rest of its chain comes
to from the scope that the branch returns: behind one sibling, or behind all elements of the branch
if it is the last one and leaves siblings over. Where no branch fits, and no children are left over
in an element of the last one, it is rejected, and returns the scope that was given. -/
theorem either_goes_on_behind_branch (falls : child.FallsInto branches) (next : Pattern)
    (pos : Position) (s : Scope) :
    let answer := (node .either child next).matcher pos s
    (∀ before branch after, branches = before ++ branch :: after →
        (∀ r ∈ before, fits r pos = false) → fits branch pos →
        let taken := (elements branch nil).matcher pos s
        let continued := next.matcher (resumed branch after pos) taken.scope
        answer.verdict = continued.verdict ∧ answer.scope = continued.scope) ∧
      ((∀ branch ∈ branches, fits branch pos = false) →
        (∀ branch ∈ branches.getLast?, spills branch pos = false) →
        answer.verdict = .invalid ∧ answer.scope = s) := by
  have opened : (node .either child next).matcher =
      .either (child.matcher :: child.laterBranches) next.matcher := by rw [matcher]
  rw [opened]
  intro answer
  cases pos with
  | nil =>
    have unfit : ∀ branch ∈ branches, fits branch [] = false := fun branch mem =>
      not_fits_nil (falls.ne_nil_of_mem mem)
    refine ⟨fun before branch after cut _ first => ?_, fun _ _ => ⟨rfl, rfl⟩⟩
    rw [unfit branch (by simp [cut])] at first
    cases first
  | cons x rest =>
    have answer_eq : answer = Matcher.firstOf next.matcher x rest s
        (child.matcher :: child.laterBranches) := rfl
    rw [answer_eq]
    refine ⟨fun before branch after cut unfit first => ?_, fun unfit dry => ?_⟩
    · obtain ⟨trace, taken⟩ := firstOf_of_fits falls cut unfit first
      rw [taken]
      exact ⟨rfl, rfl⟩
    · obtain ⟨trace, none⟩ := firstOf_of_unfit falls unfit dry
      rw [none]
      exact ⟨rfl, rfl⟩

/-- A second branch of two elements, with an italic text behind them. -/
theorem either_goes_on_behind_second_branch :
    let child := elements [("u", nil)] (node .option nil (elements [("a", nil), ("b", nil)] nil))
    let next := node (.element "i") nil nil
    let row : Position := [.element ⟨[0], 0⟩ "a" [], .element ⟨[1], 0⟩ "b" [],
      .element ⟨[2], 0⟩ "i" []]
    child.FallsInto [[("u", nil)], [("a", nil), ("b", nil)]] ∧ fits [("u", nil)] row = false ∧
      fits [("a", nil), ("b", nil)] row ∧
      ((node .either child next).matcher row .fresh).verdict =
        (next.matcher (row.drop 2) .fresh).verdict := by
  intro child next row
  have branches : child.FallsInto [[("u", nil)], [("a", nil), ("b", nil)]] :=
    .more (List.cons_ne_nil _ _) (.last (List.cons_ne_nil _ _))
  have unfit : fits [("u", nil)] row = false := by cbv
  have first : fits [("a", nil), ("b", nil)] row := by cbv
  have goesOn := (either_goes_on_behind_branch branches next row .fresh).1 [[("u", nil)]]
    [("a", nil), ("b", nil)] [] rfl (by simpa using unfit) first
  exact ⟨branches, unfit, first, goesOn.1.trans (by cbv)⟩

/-- A first branch of two elements stands for one sibling: the italic text is looked for at the
second element of the branch, and not behind it, where it is. -/
theorem long_branch_stands_for_one :
    let child := elements [("a", nil), ("b", nil)] (node .option nil (elements [("u", nil)] nil))
    let next := node (.element "i") nil nil
    let row : Position := [.element ⟨[0, 0, 0], 2⟩ "a" [], .element ⟨[0, 0, 1], 2⟩ "b" [],
      .element ⟨[0, 0, 2], 2⟩ "i" []]
    child.FallsInto [[("a", nil), ("b", nil)], [("u", nil)]] ∧
      fits [("a", nil), ("b", nil)] row ∧ (next.verdict (row.drop 2)).isValid ∧
      (node .either child next).verdict row = .invalid ∧
      ∃ p d, Template.compile
          "\x7beither\x7d<a></a><b></b>\x7bor\x7d<u></u>\x7b/either\x7d<i></i>" = .ok p ∧
        p = node (.element "html") (node (.element "body") (node .either child next) nil) nil ∧
        Document.read "<a></a><b></b><i></i>" .lenient = .ok d ∧
        (p.run d).verdict = .invalid := by
  intro child next row
  refine ⟨.more (List.cons_ne_nil _ _) (.last (List.cons_ne_nil _ _)), by cbv, by cbv, by cbv,
    _, _, by cbv, rfl, by cbv, by cbv⟩

end Pattern

end Stencil
