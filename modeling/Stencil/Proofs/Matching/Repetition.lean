import Mathlib
import Stencil.Proofs.Matching.Captures

/-!
# Matching — what a repetition visits

A repetition of a single element takes the siblings at its position as long as they are elements of
this name whose children match (`Pattern.isItem`). It looks into each of them once and in order, and
into the one behind them in vain (`Pattern.rounds_items`), and goes on there in the scope from
before (`Pattern.many_visits_leading_items`). So handlers are told of each of them, though nothing
that was captured there lasts.
-/

namespace Stencil

namespace Pattern

/-- Whether a node is an element of this name on whose children a pattern is valid. -/
def isItem (tag : String) (x : Pattern) (t : Site) : Bool :=
  t.name? == some tag && (x.verdict t.children).isValid

/-- The first node of a row, if it is an element of this name. -/
def candidate (tag : String) (row : Position) : List Site :=
  (row.take 1).filter (·.name? == some tag)

/-- The elements that a repetition of one element looks into: those that match from the start of a
row, and the node behind them, if it has the name. -/
def visited (tag : String) (x : Pattern) (pos : Position) : List Site :=
  pos.takeWhile (isItem tag x) ++ candidate tag (pos.dropWhile (isItem tag x))

/-- What a pattern captures among the children of a node. -/
def inside (x : Pattern) (s : Scope) (t : Site) : List Captured :=
  (x.matcher t.children s).captures

/-- A chain that reads a text: it compares it or searches it, or captures what does. What comes
behind in the chain is ignored. -/
inductive ReadsText : Pattern → Prop
  | literal (content : String) {child next : Pattern} :
      ReadsText (node (.literal content) child next)
  | search (regex : Regex) {child next : Pattern} : ReadsText (node (.search regex) child next)
  | capture (name : String) {child next : Pattern} : ReadsText child →
      ReadsText (node (.capture name) child next)

variable {tag : String} {x next : Pattern} {t : Site} {rest pos : Position} {s : Scope}

/-- A chain that reads a text leaves nothing over. -/
theorem ReadsText.isLeftover_eq_false (h : x.ReadsText) (pos : Position) :
    (x.verdict pos).isLeftover = false := by
  induction h with
  | literal content =>
    rw [verdict_literal]
    exact Verdict.isLeftover_eq_false fun _ _ => Matcher.literal_ne_leftover pos
  | search regex =>
    rw [verdict_search]
    exact Verdict.isLeftover_eq_false fun _ _ => Matcher.search_ne_leftover pos
  | capture name _ ih => rwa [verdict_capture]

/-! ### One round -/

theorem isItem_eq_true_iff :
    isItem tag x t ↔
      ∃ place children, t = .element place tag children ∧ (x.verdict children).isValid := by
  constructor
  · intro item
    rw [isItem, Bool.and_eq_true, beq_iff_eq] at item
    obtain ⟨name, valid⟩ := item
    cases t with
    | element place name' children =>
      cases name
      exact ⟨place, children, rfl, valid⟩
    | text place content => cases name
  · rintro ⟨place, children, rfl, valid⟩
    simp [isItem, Site.name?, valid]

theorem mem_candidate : t ∈ candidate tag pos ↔ pos.head? = some t ∧ t.name? = some tag := by
  cases pos with
  | nil => simp [candidate]
  | cons u rest =>
    rw [candidate, List.mem_filter, beq_iff_eq, List.take_succ_cons, List.take_zero,
      List.mem_singleton, List.head?_cons, Option.some.injEq, eq_comm]

theorem candidate_of_item (item : isItem tag x t) : candidate tag (t :: rest) = [t] := by
  obtain ⟨place, children, rfl, -⟩ := isItem_eq_true_iff.mp item
  simp [candidate, Site.name?]

/-- A round at an element that matches leaves the siblings behind it over. -/
theorem verdict_round_of_item (item : isItem tag x t) (rest : Position) :
    (node (.element tag) x nil).verdict (t :: rest) = nil.verdict rest := by
  obtain ⟨place, children, rfl, valid⟩ := isItem_eq_true_iff.mp item
  rw [verdict_element, if_pos valid]

/-- A round at any other node is rejected, if no children are left over. -/
theorem verdict_round_of_other (other : ¬isItem tag x t)
    (full : ∀ u ∈ candidate tag (t :: rest), (x.verdict u.children).isLeftover = false) :
    (node (.element tag) x nil).verdict (t :: rest) = .invalid := by
  by_cases name : t.name? = some tag
  · cases t with
    | element place name' children =>
      cases name
      have notValid : ¬(x.verdict children).isValid := fun valid =>
        other (isItem_eq_true_iff.mpr ⟨place, children, rfl, valid⟩)
      rw [verdict_element, if_neg notValid]
      have mem : .element place tag children ∈
          candidate tag (.element place tag children :: rest) := by
        simp [candidate, Site.name?]
      exact Verdict.eq_invalid (by simpa using notValid) (full _ mem)
    | text place content => cases name
  · exact verdict_element_of_ne (by simpa using name)

/-- A round captures what is captured among the children, at an element of the name, and nothing at
any other node. -/
theorem captures_round (tag : String) (x : Pattern) (pos : Position) (s : Scope) :
    ((node (.element tag) x nil).matcher pos s).captures =
      (candidate tag pos).flatMap (x.inside s) := by
  have ending : ∀ rest s, (Matcher.ending rest s).captures = [] := by
    rintro (_ | ⟨u, rest⟩) s
    · rfl
    · rfl
  rw [matcher, matcher]
  rcases pos with _ | ⟨⟨place, name, children⟩ | ⟨place, content⟩, rest⟩
  · rfl
  · by_cases same : name = tag
    · subst same
      have here : candidate name (.element place name children :: rest) =
          [.element place name children] := by simp [candidate, Site.name?]
      rw [here, List.flatMap_singleton, inside, Matcher.element, if_pos rfl]
      dsimp only
      split
      · rw [Attempt.captures, List.filterMap_append]
        exact (congrArg _ (ending rest _)).trans (List.append_nil _)
      · rfl
    · have here : candidate tag (.element place name children :: rest) = [] := by
        simp [candidate, Site.name?, same]
      rw [here, Matcher.element, if_neg same]
      rfl
  · rfl

/-! ### All rounds -/

/-- **The rounds of a repetition of one element** take the elements that match from the start of a
row, and come to what is behind them. They capture what is captured among the children of each of
them, in order, and then in the element that is tried in vain. -/
theorem rounds_items (matched : Bool) (pos : Position) (s : Scope)
    (full : ∀ t ∈ candidate tag (pos.dropWhile (isItem tag x)),
      (x.verdict t.children).isLeftover = false) :
    let all := (node (.element tag) x nil).matcher.rounds matched pos s
    all.matched = (matched || !(pos.takeWhile (isItem tag x)).isEmpty) ∧
      (if all.ended then [] else all.tail) = pos.dropWhile (isItem tag x) ∧
      all.trace.filterMap (·.captured?) = (visited tag x pos).flatMap (x.inside s.push) := by
  induction pos generalizing matched with
  | nil =>
    intro all
    have rejected : (node (.element tag) x nil).verdict [] = .invalid :=
      verdict_element_of_ne (by simp)
    have round : all = _ := Matcher.rounds_of_invalid (by rw [verdict_matcher, rejected])
    rw [round]
    exact ⟨by simp, rfl, captures_round tag x [] s.push⟩
  | cons t rest ih =>
    intro all
    have captured := captures_round tag x (t :: rest) s.push
    by_cases item : isItem tag x t
    · rw [List.dropWhile_cons_of_pos item] at full
      rw [visited, List.dropWhile_cons_of_pos item, List.takeWhile_cons_of_pos item]
      rw [candidate_of_item item, List.flatMap_singleton] at captured
      have verdict := verdict_round_of_item item rest
      cases rest with
      | nil =>
        -- the round comes to the end of the row, so that there is no other one
        have round : all = _ :=
          Matcher.rounds_of_valid (by rw [verdict_matcher, verdict, verdict_nil_nil])
        rw [round]
        refine ⟨by simp, rfl, ?_⟩
        rw [List.takeWhile_nil, List.dropWhile_nil, candidate, List.take_nil, List.filter_nil,
          List.append_nil, List.flatMap_singleton]
        exact captured
      | cons u rest =>
        have shorter : Site.sizes (u :: rest) < Site.sizes (t :: u :: rest) := by
          rw [Site.sizes_cons t]
          omega
        have round : all = _ :=
          Matcher.rounds_of_shorter (by rw [verdict_matcher, verdict, verdict_nil_cons]) shorter
        obtain ⟨again, behind, later⟩ := ih true full
        rw [round]
        refine ⟨by simp [again], behind, ?_⟩
        rw [List.filterMap_append, later, List.cons_append, List.flatMap_cons, visited]
        exact congrArg (· ++ _) captured
    · rw [List.dropWhile_cons_of_neg item] at full
      have round : all = _ :=
        Matcher.rounds_of_invalid (by rw [verdict_matcher, verdict_round_of_other item full])
      rw [round, visited, List.dropWhile_cons_of_neg item, List.takeWhile_cons_of_neg item]
      exact ⟨by simp, rfl, captured⟩

/-! ### The whole repetition -/

/-- What handlers are told of captures that were made in one node after another. -/
theorem dispatch_flatMap_inside {α : Type} (h : Dispatcher α) {trace : List Happening}
    {row : List Site} (captured : trace.filterMap (·.captured?) = row.flatMap (x.inside s)) :
    trace.filterMap (·.dispatch? h) = row.flatMap fun t => (x.matcher t.children s).dispatch h := by
  have told := Attempt.dispatch_eq h ⟨.invalid, s, trace⟩
  rw [Attempt.captures, captured, List.filterMap_flatMap] at told
  refine told.trans (List.flatMap_congr fun t _ => ?_)
  exact (Attempt.dispatch_eq h _).symm

/-- A captured expression is captured once where it matches, with the text at the start of the
children, and not at all elsewhere. -/
theorem inside_search (name : String) (regex : Regex) (s : Scope) (t : Site) :
    let x := node (.capture name) (node (.search regex) nil nil) nil
    let run := Matcher.textRun t.children
    x.inside s t =
      if (x.verdict t.children).isValid then [⟨name, run, s.assign name run⟩] else [] := by
  intro x run
  rw [verdict_capture, verdict_search, inside, matcher, matcher, Matcher.capture, Matcher.search,
    Matcher.search]
  by_cases found : Matcher.startsWithText t.children && regex.isMatch (Matcher.textRun t.children)
  · rw [if_pos found, if_pos found]
    rfl
  · rw [if_neg found, if_neg found]
    rfl

/-- Where an expression is captured in elements, it is captured once in each that matches, and not
in the one behind them. -/
theorem flatMap_inside_search (name : String) (regex : Regex) (s : Scope) (tag : String)
    (pos : Position) :
    let x := node (.capture name) (node (.search regex) nil nil) nil
    let run := fun t : Site => Matcher.textRun t.children
    (visited tag x pos).flatMap (x.inside s) =
      (pos.takeWhile (isItem tag x)).map fun t => ⟨name, run t, s.assign name (run t)⟩ := by
  intro x run
  have matched : ∀ t ∈ pos.takeWhile (isItem tag x),
      x.inside s t = [⟨name, run t, s.assign name (run t)⟩] := by
    intro t mem
    have item := List.mem_takeWhile_imp mem
    rw [isItem, Bool.and_eq_true] at item
    rw [inside_search, if_pos item.2]
  have missed : ∀ t ∈ candidate tag (pos.dropWhile (isItem tag x)), x.inside s t = [] := by
    intro t mem
    obtain ⟨first, named⟩ := mem_candidate.mp mem
    have other := List.head?_dropWhile_not (isItem tag x) pos
    rw [first] at other
    rw [inside_search, if_neg]
    simpa [isItem, named] using other
  rw [visited, List.flatMap_append, List.flatMap_congr matched, List.flatMap_eq_nil_iff.mpr missed,
    List.append_nil, List.map_eq_flatMap]

/-- **A repetition of one element goes on behind the elements that match**, or is rejected if there
are none. -/
theorem many_items (next : Matcher) (pos : Position) (s : Scope)
    (full : ∀ t ∈ candidate tag (pos.dropWhile (isItem tag x)),
      (x.verdict t.children).isLeftover = false) :
    ∃ before,
      Matcher.many (node (.element tag) x nil).matcher next pos s =
          Attempt.after before
            (if pos.takeWhile (isItem tag x) = [] then .quiet .invalid s
              else next (pos.dropWhile (isItem tag x)) s) ∧
        before.filterMap (·.captured?) = (visited tag x pos).flatMap (x.inside s.push) := by
  obtain ⟨matched, behind, captured⟩ := rounds_items false pos s full
  refine ⟨_, ?_, captured⟩
  by_cases none : pos.takeWhile (isItem tag x) = []
  · rw [none] at matched
    simp only [Matcher.many]
    rw [if_neg (by simp [matched]), if_pos none, Attempt.after, Attempt.quiet, List.append_nil]
  · have some : (pos.takeWhile (isItem tag x)).isEmpty = false := by simpa using none
    rw [some] at matched
    simp only [Matcher.many]
    rw [if_pos (by simpa using matched), behind, if_neg none]

/-- **A repetition of one element visits the leading elements that match, each once.** Where no
children are left over in the element behind them, the repetition is rejected with the scope that
was given if there are no such elements; else it comes to what the rest of its chain comes to behind
them, from the scope that was given. What handlers are told before that is what they are told of the
children of each of these elements, once and in order, and then of those of the element behind them,
if it has the name. No children are left over by a chain that reads a text. Of an expression that is
captured, the handler is told once for each of the elements, with the text that its children start
with. -/
theorem many_visits_leading_items (tag : String) (x next : Pattern) (pos : Position) (s : Scope) :
    let answer := (node .many (node (.element tag) x nil) next).matcher pos s
    let items := pos.takeWhile (isItem tag x)
    let rest := pos.dropWhile (isItem tag x)
    let found := if items = [] then .quiet .invalid s else next.matcher rest s
    ((∀ t ∈ candidate tag rest, (x.verdict t.children).isLeftover = false) →
        ∃ before, answer = found.after before ∧ ∀ {α : Type} (h : Dispatcher α),
          before.filterMap (·.dispatch? h) =
            (items ++ candidate tag rest).flatMap fun t =>
              (x.matcher t.children s.push).dispatch h) ∧
      (x.ReadsText → ∀ children, (x.verdict children).isLeftover = false) ∧
      ∀ name regex, x = node (.capture name) (node (.search regex) nil nil) nil →
        ∃ before, answer = found.after before ∧ ∀ {α : Type} (h : Dispatcher α) (f : Scope → α),
          before.filterMap (·.dispatch? (h.register name f)) =
            items.map fun t => f (s.push.assign name (Matcher.textRun t.children)) := by
  intro answer items rest found
  have opened : answer = _ := congrFun₂ matcher_many pos s
  refine ⟨fun full => ?_, ReadsText.isLeftover_eq_false, ?_⟩
  · obtain ⟨before, behind, captured⟩ := many_items next.matcher pos s full
    exact ⟨before, opened.trans behind, fun h => dispatch_flatMap_inside h captured⟩
  · rintro name regex rfl
    have reads : ReadsText (node (.capture name) (node (.search regex) nil nil) nil) :=
      .capture name (.search regex)
    obtain ⟨before, behind, captured⟩ :=
      many_items next.matcher pos s fun t _ => reads.isLeftover_eq_false t.children
    refine ⟨before, opened.trans behind, fun h f => ?_⟩
    have told := Attempt.dispatch_eq (h.register name f) ⟨.invalid, s, before⟩
    rw [Attempt.captures, captured, flatMap_inside_search, List.filterMap_map] at told
    refine told.trans ?_
    simp only [Function.comp_def, Dispatcher.dispatch_register]
    exact congrFun List.filterMap_eq_map items

/-- Two items of a list, in front of a paragraph. -/
theorem many_visits_leading_items_list :
    let regex : Regex := ⟨"a", .text ['a'], by cbv⟩
    let x := node (.capture "x") (node (.search regex) nil nil) nil
    let next := node (.element "p") nil nil
    let row : Position := [.element ⟨[0], 0⟩ "li" [.text ⟨[0, 0], 1⟩ "a"],
      .element ⟨[1], 0⟩ "li" [.text ⟨[1, 0], 1⟩ "banana"], .element ⟨[2], 0⟩ "p" []]
    let h := Dispatcher.empty.register "x" fun scope => scope.get? "x"
    let answer := (node .many (node (.element "li") x nil) next).matcher row .fresh
    let found := next.matcher (row.drop 2) .fresh
    (∀ t ∈ candidate "li" (row.drop 2), (x.verdict t.children).isLeftover = false) ∧
      x.ReadsText ∧ answer.verdict = found.verdict ∧
      ∃ before, answer = found.after before ∧
        before.filterMap (·.dispatch? h) = [some "a", some "banana"] := by
  intro regex x next row h answer found
  have reads : x.ReadsText := .capture "x" (.search regex)
  have items : row.takeWhile (isItem "li" x) = row.take 2 := by
    dsimp only [row, x, regex]
    cbv
  have rest : row.dropWhile (isItem "li" x) = row.drop 2 := by
    dsimp only [row, x, regex]
    cbv
  have some : row.take 2 ≠ [] := List.cons_ne_nil _ _
  obtain ⟨visits, full, told⟩ := many_visits_leading_items "li" x next row .fresh
  rw [items, rest, if_neg some] at visits told
  have full : ∀ t ∈ candidate "li" (row.drop 2), (x.verdict t.children).isLeftover = false :=
    fun t _ => full reads t.children
  obtain ⟨_, goesOn, -⟩ := visits full
  obtain ⟨before, same, texts⟩ := told "x" regex rfl
  have verdict : answer.verdict = found.verdict := by
    rw [show answer = _ from goesOn, Attempt.after_verdict]
  refine ⟨full, reads, verdict, before, same, (texts .empty _).trans ?_⟩
  dsimp only [row]
  cbv

end Pattern

end Stencil
