import Mathlib.Logic.Relation
import Stencil.Proofs.Matching.Uniform

/-!
# Matching — the verdict of a pattern

The verdict of a pattern at a position (`Pattern.verdict`), which no scope changes, law by law for
the kinds of its first node. A wildcard goes on at the first position that serves
(`Position.seek`), a repetition where its rounds come to (`Pattern.resume?`), an alternative where
the branch that it takes leaves off (`Pattern.taken?`).
-/

namespace Stencil

namespace Position

/-- The first position of a row that passes a test, or the end of the row. -/
def seek (test : Position → Bool) : Position → Position
  | [] => []
  | s :: rest => if test (s :: rest) then s :: rest else seek test rest

variable {test : Position → Bool}

theorem seek_suffix (pos : Position) : seek test pos <:+ pos := by
  induction pos with
  | nil => exact List.suffix_refl []
  | cons s rest ih =>
    rw [seek]
    split
    · exact List.suffix_refl _
    · exact ih.trans (List.suffix_cons s rest)

end Position

namespace Pattern

/-- The verdict of a pattern at a position. -/
def verdict (p : Pattern) (pos : Position) : Verdict := (p.matcher pos .fresh).verdict

/-- **No verdict depends on the scope.** -/
@[simp] theorem verdict_matcher (p : Pattern) (pos : Position) (s : Scope) :
    (p.matcher pos s).verdict = p.verdict pos := by
  rw [matcher_onto, Attempt.onto_verdict, verdict]

variable {child next : Pattern} {pos : Position}

/-! ### Ends, elements, scopes and captures -/

theorem verdict_nil_nil : nil.verdict [] = .valid none := by
  rw [verdict, matcher]
  rfl

theorem verdict_nil_cons (s : Site) (rest : List Site) :
    nil.verdict (s :: rest) = .leftover s rest := by
  rw [verdict, matcher]
  rfl

/-- A pattern that asks for an element of a name hands on what the children come to, unless they
are valid. -/
theorem verdict_element (tag : String) (place : Place) (children rest : List Site) :
    (node (.element tag) child next).verdict (.element place tag children :: rest) =
      if (child.verdict children).isValid then next.verdict rest else child.verdict children := by
  rw [verdict, matcher, Matcher.element, if_pos rfl]
  simp only [verdict_matcher]
  split
  · exact next.verdict_matcher rest _
  · exact child.verdict_matcher children _

/-- A pattern that asks for an element of a name rejects all but the rows that start with one. -/
theorem element_of_verdict {tag : String}
    (h : (node (.element tag) child next).verdict pos ≠ .invalid) :
    ∃ place children rest, pos = .element place tag children :: rest := by
  rw [verdict, matcher] at h
  rcases pos with _ | ⟨⟨place, name, children⟩ | ⟨place, content⟩, rest⟩
  · exact absurd rfl h
  · by_cases same : name = tag
    · exact ⟨place, children, rest, by rw [same]⟩
    · exact absurd (by rw [Matcher.element, if_neg same]; rfl) h
  · exact absurd rfl h

theorem verdict_element_of_ne {tag : String} (h : ∀ s ∈ pos.head?, s.name? ≠ some tag) :
    (node (.element tag) child next).verdict pos = .invalid := by
  by_contra other
  obtain ⟨place, children, rest, rfl⟩ := element_of_verdict other
  exact h _ rfl rfl

theorem verdict_literal (content : String) :
    (node (.literal content) child next).verdict pos =
      ((Matcher.literal content) pos .fresh).verdict := by
  rw [verdict, matcher]

theorem verdict_search (regex : Regex) :
    (node (.search regex) child next).verdict pos =
      ((Matcher.search regex) pos .fresh).verdict := by
  rw [verdict, matcher]

theorem verdict_scope : (node .scope child next).verdict pos = child.verdict pos := by
  rw [verdict, matcher]
  exact child.verdict_matcher pos _

theorem verdict_capture (name : String) :
    (node (.capture name) child next).verdict pos = child.verdict pos := by
  rw [verdict, matcher, Matcher.capture, verdict]
  split
  · rfl
  · rfl

theorem verdict_option : (node .option child next).verdict pos = .valid none := by
  rw [verdict, matcher]
  rfl

/-! ### Wildcards -/

/-- The verdict on a row behind a wildcard. Behind the last sibling it is never that nodes are left
over, and no text is told. -/
def verdictBehind (next : Pattern) (pos : Position) : Verdict :=
  if pos = [] then if (next.verdict []).isValid then .valid none else .invalid
  else next.verdict pos

/-- Where a wildcard stops: at the first sibling that the rest of the chain does not reject. -/
def stop (next : Pattern) (pos : Position) : Position :=
  Position.seek (fun x => !(next.verdict x).isInvalid) pos

/-- Where a wildcard with a forbidden pattern stops: at the first sibling where the rest of the
chain is valid. -/
def haven (next : Pattern) (pos : Position) : Position :=
  Position.seek (fun x => (next.verdict x).isValid) pos

theorem verdict_atEnd (next : Pattern) (s : Scope) :
    (Matcher.atEnd next.matcher s).verdict = next.verdictBehind [] := by
  rw [Matcher.atEnd, verdict_matcher, verdictBehind, if_pos rfl]
  split
  · rfl
  · rfl

theorem verdict_wildcard_nil : (node .wildcard child nil).verdict pos = .valid none := by
  rw [verdict, matcher]
  rfl

theorem verdict_wildcard (h : next ≠ nil) :
    (node .wildcard child next).verdict pos = next.verdictBehind (next.stop pos) := by
  rw [verdict, matcher_wildcard h]
  induction pos with
  | nil => exact next.verdict_atEnd .fresh
  | cons s rest ih =>
    rw [Matcher.wildcard, verdict_matcher, stop, Position.seek]
    cases rejected : (next.verdict (s :: rest)).isInvalid with
    | true =>
      rw [if_pos rfl, Attempt.after_verdict, ih]
      rfl
    | false => simp [verdictBehind]

theorem verdict_wildcardExcept_nil_nil :
    (node .wildcardExcept nil nil).verdict pos = .valid none := by
  rw [verdict, matcher]
  rfl

theorem verdict_wildcardExcept_nil (h : next ≠ nil) :
    (node .wildcardExcept nil next).verdict pos = next.verdict pos := by
  cases next with
  | nil => exact absurd rfl h
  | node => rw [verdict, matcher]; rfl

/-- The forbidden pattern rejects every position that starts in the first of two rows and goes on
in the second. -/
def RejectsAlong (forbidden : Pattern) (skipped rest : List Site) : Prop :=
  ∀ x, x ≠ [] → x <:+ skipped → forbidden.verdict (x ++ rest) = .invalid

theorem rejectsAlong_nil (forbidden : Pattern) (rest : List Site) :
    forbidden.RejectsAlong [] rest :=
  fun _ ne suffix => absurd (List.suffix_nil.mp suffix) ne

theorem rejectsAlong_cons {forbidden : Pattern} {s : Site} {skipped rest : List Site}
    (here : forbidden.verdict (s :: skipped ++ rest) = .invalid)
    (later : forbidden.RejectsAlong skipped rest) : forbidden.RejectsAlong (s :: skipped) rest := by
  intro x ne suffix
  rcases List.suffix_cons_iff.mp suffix with rfl | suffix
  · exact here
  · exact later x ne suffix

/-- Without a rest of the chain, a wildcard with a forbidden pattern stops behind the last
sibling. -/
theorem verdict_avoiding (forbidden : Matcher) (s : Scope) :
    (forbidden.avoiding pos s).verdict = (forbidden.avoidingUntil .ending pos s).verdict := by
  induction pos with
  | nil => rfl
  | cons x rest ih =>
    simp only [Matcher.avoiding, Matcher.avoidingUntil, Matcher.ending, Verdict.isValid_leftover,
      Bool.false_eq_true, if_false]
    split
    · exact ih
    · rfl

theorem verdict_wildcardExcept (h : child ≠ nil) :
    (node .wildcardExcept child next).verdict pos =
      (child.matcher.avoidingUntil next.matcher pos .fresh).verdict := by
  by_cases last : next = nil
  · rw [last, verdict, matcher_avoiding h, verdict_avoiding, matcher]
  · rw [verdict, matcher_avoidingUntil h last]

/-- A wildcard with a forbidden pattern passes over siblings that this one rejects, and is valid
where the rest of the chain is. -/
theorem wildcardExcept_of_verdict (hc : child ≠ nil)
    (h : (node .wildcardExcept child next).verdict pos ≠ .invalid) :
    ((node .wildcardExcept child next).verdict pos).isValid ∧
      (next.verdict (next.haven pos)).isValid ∧
      ∃ skipped, pos = skipped ++ next.haven pos ∧
        child.RejectsAlong skipped (next.haven pos) := by
  rw [verdict_wildcardExcept hc] at h ⊢
  induction pos with
  | nil =>
    rw [Matcher.avoidingUntil, verdict_atEnd, verdictBehind, if_pos rfl] at h ⊢
    by_cases last : (next.verdict []).isValid
    · exact ⟨by simp [last], last, [], rfl, rejectsAlong_nil child _⟩
    · exact absurd (by simp [last]) h
  | cons s rest ih =>
    simp only [Matcher.avoidingUntil, verdict_matcher] at h ⊢
    by_cases here : (next.verdict (s :: rest)).isValid
    · have stay : next.haven (s :: rest) = s :: rest := by simp [haven, Position.seek, here]
      rw [if_pos here, stay]
      exact ⟨by simpa using here, here, [], rfl, rejectsAlong_nil child _⟩
    · have move : next.haven (s :: rest) = next.haven rest := by simp [haven, Position.seek, here]
      rw [if_neg here] at h ⊢
      rw [move]
      by_cases probe : (child.verdict (s :: rest)).isInvalid
      · rw [if_pos probe] at h ⊢
        obtain ⟨valid, served, skipped, split, along⟩ := ih h
        refine ⟨valid, served, s :: skipped, by rw [List.cons_append, ← split], ?_⟩
        refine rejectsAlong_cons ?_ along
        rw [List.cons_append, ← split]
        exact (child.verdict (s :: rest)).isInvalid_iff.mp probe
      · exact absurd (by rw [if_neg probe]) h

/-! ### Repetition -/

/-- A round of a repetition at the first position runs out at the second one, with fewer nodes
left. -/
inductive Round (p : Pattern) : Position → Position → Prop
  | mk {x : Position} {s : Site} {rest : List Site} :
      p.verdict x = .leftover s rest → Site.sizes (s :: rest) < Site.sizes x →
      Round p x (s :: rest)

/-- Where the rest of the chain is tried after a repetition, if a round matched. -/
def resume? (child : Pattern) (pos : Position) : Option Position :=
  let all := child.matcher.rounds false pos .fresh
  if all.matched then some (if all.ended then [] else all.tail) else none

theorem verdict_many :
    (node .many child next).verdict pos =
      ((child.resume? pos).map next.verdict).getD .invalid := by
  rw [verdict, matcher, Matcher.many, resume?]
  by_cases matched : (child.matcher.rounds false pos .fresh).matched
  · simp [matched]
  · simp [matched]

/-- How the rounds from a position end: some position is reached by rounds that leave nodes over,
and the round there is the last one. -/
theorem rounds_cases (p : Pattern) (matched : Bool) (pos : Position) (s : Scope) :
    ∃ x, Relation.ReflTransGen p.Round pos x ∧
      let all := p.matcher.rounds matched pos s
      ((p.verdict x).isValid ∧ all.matched = true ∧ all.ended = true ∨
        (∃ t rest, p.verdict x = .leftover t rest ∧ Site.sizes x ≤ Site.sizes (t :: rest)) ∧
          all.matched = true ∧ all.ended = false ∧ all.tail = x ∨
        (p.verdict x).isInvalid ∧ all.ended = false ∧ all.tail = x ∧
          (Relation.TransGen p.Round pos x ∧ all.matched = true ∨
            x = pos ∧ all.matched = matched)) := by
  fun_induction Matcher.rounds p.matcher matched pos s with
  | case1 matched pos round t rest left shorter later ih =>
    obtain ⟨x, reach, ends⟩ := ih
    -- the rounds from where the first one ran out, with the first one before them
    have first : p.Round pos (t :: rest) := ⟨by rw [← p.verdict_matcher pos s.push]; exact left,
      shorter⟩
    refine ⟨x, .head first reach, ?_⟩
    rcases ends with valid | stuck | ⟨rejected, ended, tail, reached | ⟨rfl, all⟩⟩
    · exact .inl valid
    · exact .inr (.inl stuck)
    · exact .inr (.inr ⟨rejected, ended, tail, .inl ⟨.head first reached.1, reached.2⟩⟩)
    · exact .inr (.inr ⟨rejected, ended, tail, .inl ⟨.single first, all⟩⟩)
  | case2 matched pos round t rest left longer =>
    refine ⟨pos, .refl, .inr (.inl ⟨⟨t, rest, ?_, Nat.le_of_not_lt longer⟩, rfl, rfl, rfl⟩)⟩
    rw [← p.verdict_matcher pos s.push]
    exact left
  | case3 matched pos round text valid =>
    refine ⟨pos, .refl, .inl ⟨?_, rfl, rfl⟩⟩
    rw [← p.verdict_matcher pos s.push, valid, Verdict.isValid_valid]
  | case4 matched pos round rejected =>
    refine ⟨pos, .refl, .inr (.inr ⟨?_, rfl, rfl, .inr ⟨rfl, rfl⟩⟩)⟩
    rw [← p.verdict_matcher pos s.push, rejected, Verdict.isInvalid_invalid]

/-- The rest of the chain is tried behind the last sibling, if the last round is valid; else where
that round started, which left as many nodes over or is not the first one. -/
theorem resume_cases {at_ : Position} (h : child.resume? pos = some at_) :
    ∃ x, Relation.ReflTransGen child.Round pos x ∧
      ((child.verdict x).isValid ∧ at_ = [] ∨
        at_ = x ∧
          ((∃ t rest, child.verdict x = .leftover t rest ∧
              Site.sizes x ≤ Site.sizes (t :: rest)) ∨
            Relation.TransGen child.Round pos x)) := by
  obtain ⟨x, reach, ends⟩ := child.rounds_cases false pos .fresh
  simp only [resume?, Option.ite_none_right_eq_some, Option.some.injEq] at h
  obtain ⟨matched, rfl⟩ := h
  refine ⟨x, reach, ?_⟩
  rcases ends with ⟨valid, -, ended⟩ | ⟨left, -, ended, tail⟩ |
    ⟨-, ended, tail, ⟨reached, -⟩ | ⟨-, all⟩⟩
  · exact .inl ⟨valid, by rw [ended, if_pos rfl]⟩
  · exact .inr ⟨by simp [ended, tail], .inl left⟩
  · exact .inr ⟨by simp [ended, tail], .inr reached⟩
  · rw [all] at matched
    exact absurd matched (by simp)

/-! ### Alternatives -/

/-- The branches of a chain after the first one. -/
def branchesAfter : Pattern → List Pattern
  | nil => []
  | node .option _ next => next :: next.branchesAfter
  | node _ _ next => next.branchesAfter

theorem laterBranches_eq (p : Pattern) : p.laterBranches = p.branchesAfter.map matcher := by
  induction p with
  | nil => rfl
  | node kind child next _ ih =>
    cases kind with
    | option => rw [laterBranches, branchesAfter, ih, List.map_cons]
    | _ => simpa only [laterBranches, branchesAfter] using ih

/-- The branch that an alternative takes at a sibling, and where the rest of the chain is tried
after it. -/
def taken? (s : Site) (rest : List Site) : List Pattern → Option (Pattern × Position)
  | [] => none
  | branch :: later =>
    match branch.verdict (s :: rest), later with
    | .valid _, _ => some (branch, rest)
    | .leftover t after, [] => some (branch, t :: after)
    | _, [] => none
    | _, b :: later => taken? s rest (b :: later)

theorem verdict_either_nil : (node .either child next).verdict [] = .invalid := by
  rw [verdict, matcher]
  rfl

theorem verdict_either_cons (s : Site) (rest : List Site) :
    (node .either child next).verdict (s :: rest) =
      ((taken? s rest (child :: child.branchesAfter)).map (next.verdict ·.2)).getD .invalid := by
  rw [verdict, matcher, Matcher.either, laterBranches_eq, ← List.map_cons]
  generalize child :: child.branchesAfter = branches
  -- each branch starts in the scope that is given, and the rest of the chain in that of the branch
  generalize Scope.fresh = scope
  fun_induction taken? s rest branches with
  | case1 => rfl
  | case2 branch later text valid =>
    rw [List.map_cons, Matcher.firstOf_of_valid branch.matcher (by simpa using valid)]
    exact next.verdict_matcher rest _
  | case3 branch t after left =>
    rw [List.map_cons, List.map_nil,
      Matcher.firstOf_last_of_leftover branch.matcher (by simpa using left)]
    exact next.verdict_matcher _ _
  | case4 branch not_valid not_left =>
    have rejected : branch.verdict (s :: rest) = .invalid :=
      Verdict.eq_invalid (Verdict.isValid_eq_false not_valid) (Verdict.isLeftover_eq_false not_left)
    rw [List.map_cons, List.map_nil,
      Matcher.firstOf_last_of_invalid branch.matcher (by simpa using rejected)]
    rfl
  | case5 branch b later not_valid ih =>
    have again : (branch.verdict (s :: rest)).isValid = false := Verdict.isValid_eq_false not_valid
    rw [List.map_cons, Matcher.firstOf_of_not_valid branch.matcher (by simpa using again) (by simp)]
    exact ih

/-- The branch that an alternative takes is valid, and stands for one sibling; or it is the last
one, and leaves nodes over. -/
theorem taken_cases {s : Site} {rest : List Site} {branches : List Pattern} {branch : Pattern}
    {at_ : Position} (h : taken? s rest branches = some (branch, at_)) :
    branch ∈ branches ∧
      ((branch.verdict (s :: rest)).isValid ∧ at_ = rest ∨
        ∃ t after, branches.getLast? = some branch ∧
          branch.verdict (s :: rest) = .leftover t after ∧ at_ = t :: after) := by
  fun_induction taken? s rest branches with
  | case1 => cases h
  | case2 _ later text valid =>
    cases h
    exact ⟨List.mem_cons_self, .inl ⟨by rw [valid]; rfl, rfl⟩⟩
  | case3 _ t after left =>
    cases h
    exact ⟨List.mem_cons_self, .inr ⟨t, after, rfl, left, rfl⟩⟩
  | case4 => cases h
  | case5 first b later _ ih =>
    obtain ⟨mem, ends⟩ := ih h
    refine ⟨List.mem_cons_of_mem _ mem, ends.imp_right fun ⟨t, after, last, left, at_eq⟩ => ?_⟩
    exact ⟨t, after, by rw [List.getLast?_cons_cons]; exact last, left, at_eq⟩

end Pattern

end Stencil
