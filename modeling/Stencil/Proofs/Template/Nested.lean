import Mathlib
import Stencil.Proofs.Brackets
import Stencil.Proofs.Success
import Stencil.Proofs.Template.Plain
import Stencil.Proofs.Template.Scanning

/-!
# Template — nested operators

A template is expanded if and only if each of its operators is in its place and none is left open
(`Template.exists_scans_and_expand_iff`). What is open in front of an operator is told by the
operators before it, as brackets that are left open (`Template.InPlace`).
-/

namespace Stencil.Template

open Stencil.Bracket (WellNested Leaves)

variable {before ts : List Token} {nesting left : Nesting} {t : Token} {b : Block}
  {offset behind : Nat}

/-- The bracket that an operator is. -/
def Token.bracket? : Token → Option (Bracket Block)
  | opening b => some (.opening b)
  | closing b => some (.closing b)
  | _ => none

/-- The brackets of a row of tokens. -/
def brackets (ts : List Token) : List (Bracket Block) := ts.filterMap Token.bracket?

theorem brackets_append (ts us : List Token) : brackets (ts ++ us) = brackets ts ++ brackets us :=
  List.filterMap_append ..

/-- Whether a token may stand behind a row of tokens: `or` directly in an `either`, a closing
operator where its own is the innermost open one, a capture with a name that starts with a small
letter. -/
def InPlace (before : List Token) : Token → Prop
  | .option => ∃ outer, Leaves (brackets before) (.either :: outer)
  | .closing b => ∃ outer, Leaves (brackets before) (b :: outer)
  | .opening b => ∀ name, b = .capture name → isCaptureName name
  | _ => True

/-- Whether each token of a row is in its place, behind a row of tokens. -/
def AllInPlace (before ts : List Token) : Prop :=
  ∀ first t after, ts = first ++ t :: after → InPlace (before ++ first) t

theorem allInPlace_cons :
    AllInPlace before (t :: ts) ↔ InPlace before t ∧ AllInPlace (before ++ [t]) ts := by
  constructor
  · intro all
    refine ⟨by simpa using all [] t ts rfl, fun first u after eq => ?_⟩
    simpa using all (t :: first) u after (by rw [eq, List.cons_append])
  · rintro ⟨here, later⟩ (_ | ⟨u, first⟩) v after eq
    · cases eq
      simpa using here
    · cases eq
      simpa using later first v after rfl

/-! ### One token -/

theorem step_option_eq_ok_iff :
    nesting.step offset .option = .ok left ↔
      left = nesting ∧ ∃ at_ outer, nesting = (.either, at_) :: outer := by
  rcases nesting with _ | ⟨⟨kind, at_⟩, outer⟩
  · simp [Nesting.step]
  · cases kind <;> simp [Nesting.step, eq_comm]

theorem step_opening_eq_ok_iff :
    nesting.step offset (.opening b) = .ok left ↔
      left = (b, offset) :: nesting ∧ ∀ name, b = .capture name → isCaptureName name := by
  rw [@eq_comm _ left]
  cases b with
  | capture name => by_cases small : isCaptureName name <;> simp [Nesting.step, small]
  | but | many | scope | either => simp [Nesting.step]

theorem step_closing_eq_ok_iff :
    nesting.step offset (.closing b) = .ok left ↔ ∃ at_, nesting = (b, at_) :: left := by
  rcases nesting with _ | ⟨⟨kind, at_⟩, outer⟩
  · simp [Nesting.step]
  · by_cases same : kind = b <;> simp [Nesting.step, same]

/-- The operators that are open in front of a row of tokens are those of a nesting. -/
abbrev Nesting.Behind (nesting : Nesting) (before : List Token) : Prop :=
  Leaves (brackets before) (nesting.map Prod.fst)

/-- A token that is accepted changes what is open as its bracket does. -/
theorem behind_of_step (h : nesting.Behind before) (step : nesting.step offset t = .ok left) :
    left.Behind (before ++ [t]) := by
  rw [Nesting.Behind, brackets_append]
  cases t with
  | char | something | regex =>
    cases step
    exact h.append .nil
  | option =>
    obtain ⟨rfl, -⟩ := step_option_eq_ok_iff.mp step
    exact h.append .nil
  | opening b =>
    obtain ⟨rfl, -⟩ := step_opening_eq_ok_iff.mp step
    exact h.opening b
  | closing b =>
    obtain ⟨at_, rfl⟩ := step_closing_eq_ok_iff.mp step
    exact h.closing

/-- A token is accepted if and only if it is in its place. -/
theorem exists_step_eq_ok_iff (offset : Nat) (h : nesting.Behind before) :
    (∃ left, nesting.step offset t = .ok left) ↔ InPlace before t := by
  cases t with
  | char | something | regex => exact iff_of_true ⟨nesting, rfl⟩ trivial
  | option =>
    constructor
    · rintro ⟨left, step⟩
      obtain ⟨-, at_, outer, rfl⟩ := step_option_eq_ok_iff.mp step
      exact ⟨_, h⟩
    · -- what a row leaves open is told in one way, so that it is what the nesting says
      rintro ⟨above, found⟩
      obtain ⟨⟨kind, at_⟩, outer, rfl, rfl, -⟩ := List.map_eq_cons_iff.mp (h.unique found)
      exact ⟨_, rfl⟩
  | opening b =>
    constructor
    · rintro ⟨left, step⟩
      exact (step_opening_eq_ok_iff.mp step).2
    · intro small
      exact ⟨_, step_opening_eq_ok_iff.mpr ⟨rfl, small⟩⟩
  | closing b =>
    constructor
    · rintro ⟨left, step⟩
      obtain ⟨at_, rfl⟩ := step_closing_eq_ok_iff.mp step
      exact ⟨_, h⟩
    · rintro ⟨above, found⟩
      obtain ⟨⟨kind, at_⟩, outer, rfl, rfl, -⟩ := List.map_eq_cons_iff.mp (h.unique found)
      exact ⟨outer, step_closing_eq_ok_iff.mpr ⟨at_, rfl⟩⟩

/-! ### Rows of tokens -/

theorem run_append (ts us : List Token) : ∀ {offset behind : Nat} {nesting left : Nesting},
    Nesting.run offset nesting ts = .ok (left, behind) →
      Nesting.run offset nesting (ts ++ us) = Nesting.run behind left us := by
  induction ts with
  | nil =>
    intro offset behind nesting left run
    cases run
    rfl
  | cons t ts ih =>
    intro offset behind nesting left run
    obtain ⟨next, step, run⟩ := ok_of_bind run
    rw [List.cons_append, Nesting.run, step, ok_bind, ih run]

theorem behind_of_run (h : nesting.Behind before)
    (run : Nesting.run offset nesting ts = .ok (left, behind)) : left.Behind (before ++ ts) := by
  induction ts generalizing before nesting offset with
  | nil =>
    cases run
    rw [List.append_nil]
    exact h
  | cons t ts ih =>
    obtain ⟨next, step, run⟩ := ok_of_bind run
    have := ih (behind_of_step h step) run
    rwa [List.append_assoc, List.singleton_append] at this

theorem exists_run_eq_ok_iff (offset : Nat) (h : nesting.Behind before) :
    (∃ left behind, Nesting.run offset nesting ts = .ok (left, behind)) ↔ AllInPlace before ts := by
  induction ts generalizing before nesting offset with
  | nil => exact iff_of_true ⟨_, _, rfl⟩ fun first t after eq => by cases first <;> cases eq
  | cons t ts ih =>
    rw [allInPlace_cons]
    constructor
    · rintro ⟨left, behind, run⟩
      obtain ⟨next, step, run⟩ := ok_of_bind run
      exact ⟨(exists_step_eq_ok_iff _ h).mp ⟨next, step⟩,
        (ih _ (behind_of_step h step)).mp ⟨_, _, run⟩⟩
    · rintro ⟨here, later⟩
      obtain ⟨next, step⟩ := (exists_step_eq_ok_iff offset h).mpr here
      obtain ⟨left, behind, run⟩ := (ih _ (behind_of_step h step)).mpr later
      exact ⟨left, behind, by rw [Nesting.run, step, ok_bind, run]⟩

/-- The condition under which a row of tokens is markup. -/
structure Nested (ts : List Token) : Prop where
  /-- Each token is in its place. -/
  inPlace : ∀ before t after, ts = before ++ t :: after → InPlace before t
  /-- No operator is left open. -/
  closed : WellNested (brackets ts)

theorem expand_tokens_iff {markup : List Char} {fault : Option RegexFault} :
    Tokens.expand ⟨ts, fault⟩ = .ok markup ↔
      fault = none ∧ Nested ts ∧ markup = ts.flatMap Token.markup := by
  have start : Nesting.Behind [] [] := .nothing .nil
  constructor
  · intro expanded
    obtain ⟨⟨left, behind⟩, run, expanded⟩ := ok_of_bind expanded
    have leaves := behind_of_run start run
    have inPlace := (exists_run_eq_ok_iff 0 start).mp ⟨left, behind, run⟩
    cases fault with
    | some fault => cases expanded
    | none =>
      cases left with
      | cons innermost outer => cases expanded
      | nil =>
        cases expanded
        exact ⟨rfl, ⟨inPlace, Bracket.wellNested_iff.mpr leaves⟩, rfl⟩
  · rintro ⟨rfl, ⟨inPlace, closed⟩, rfl⟩
    obtain ⟨left, behind, run⟩ := (exists_run_eq_ok_iff 0 start).mpr inPlace
    obtain rfl : left = [] := by
      have leaves := behind_of_run start run
      exact List.map_eq_nil_iff.mp (leaves.unique (Bracket.wellNested_iff.mp closed))
    rw [Tokens.expand, run]
    rfl

/-- **A template is cut into its tokens in one way, and expanded if and only if no regular
expression among them is empty or without an end, each operator is in its place and none is left
open. It then stands for the markup of its tokens, in their order. A template without an opening
brace stands for itself.** -/
theorem exists_scans_and_expand_iff (template : String) :
    ∃ ts fault, Scans template.toList ts fault ∧
      (∀ ts' fault', Scans template.toList ts' fault' → ts' = ts ∧ fault' = fault) ∧
      (∀ markup, expand template = .ok markup ↔
        fault = none ∧ Nested ts ∧ markup = String.ofList (ts.flatMap Token.markup)) ∧
      ('\x7b' ∉ template.toList → expand template = .ok template) := by
  obtain ⟨ts, fault, scans⟩ := exists_scans template.toList
  have cut := scans.eq_ofSource
  refine ⟨ts, fault, scans, fun ts' fault' other => ?_, fun markup => ?_, expand_of_plain⟩
  · have same := other.eq_ofSource.symm.trans cut
    cases same
    exact ⟨rfl, rfl⟩
  · rw [expand, cut]
    constructor
    · intro expanded
      obtain ⟨text, found, rfl⟩ := ok_of_map expanded
      obtain ⟨whole, nested, rfl⟩ := expand_tokens_iff.mp found
      exact ⟨whole, nested, rfl⟩
    · rintro ⟨whole, nested, rfl⟩
      rw [expand_tokens_iff.mpr ⟨whole, nested, rfl⟩]
      rfl

/-- A closing brace is text. A brace in a regular expression opens nothing. Blocks that cross are
tokens that do not nest. -/
theorem exists_scans_and_expand_iff_crossed :
    ('\x7b' ∉ "<a>\x7d</a>".toList ∧ expand "<a>\x7d</a>" = .ok "<a>\x7d</a>") ∧
      (∃ ts, Scans ("\x7beither\x7d\x7b$x\x7da\x7b/$x\x7d" ++
            "\x7bor\x7d\x7b/[\x7b]/\x7d\x7b/either\x7d").toList ts none ∧
          Nested ts ∧ .regex ['[', '\x7b', ']'] ∈ ts ∧
          String.ofList (ts.flatMap Token.markup) = "<ep-either><ep-variable name=\"x\">a" ++
            "</ep-variable><ep-or/><ep-regex value=\"[\x7b]\"/></ep-either>") ∧
      ∃ ts, Scans "\x7beither\x7d\x7bmany\x7d\x7b/either\x7d\x7b/many\x7d".toList ts none ∧
        ¬Nested ts := by
  have plain : '\x7b' ∉ "<a>\x7d</a>".toList := by decide
  obtain ⟨_, _, _, _, _, same⟩ := exists_scans_and_expand_iff "<a>\x7d</a>"
  refine ⟨⟨plain, same plain⟩, ?_, ?_⟩
  · obtain ⟨ts, fault, scans, -, expands, -⟩ := exists_scans_and_expand_iff
      ("\x7beither\x7d\x7b$x\x7da\x7b/$x\x7d" ++ "\x7bor\x7d\x7b/[\x7b]/\x7d\x7b/either\x7d")
    obtain ⟨rfl, nested, markup⟩ := (expands _).mp (by cbv)
    refine ⟨ts, scans, nested, ?_, markup.symm⟩
    obtain rfl := congrArg Tokens.tokens scans.eq_ofSource
    decide +kernel
  · obtain ⟨ts, fault, scans, -, expands, -⟩ := exists_scans_and_expand_iff
      "\x7beither\x7d\x7bmany\x7d\x7b/either\x7d\x7b/many\x7d"
    have whole : none = (Tokens.ofSource
        "\x7beither\x7d\x7bmany\x7d\x7b/either\x7d\x7b/many\x7d".toList).fault := by cbv
    obtain rfl : none = fault := whole.trans (congrArg Tokens.fault scans.eq_ofSource)
    refine ⟨ts, scans, fun nested => ?_⟩
    have refused :
        (expand "\x7beither\x7d\x7bmany\x7d\x7b/either\x7d\x7b/many\x7d").isOk = false := by
      cbv
    rw [(expands _).mpr ⟨rfl, nested, rfl⟩] at refused
    cases refused

end Stencil.Template
