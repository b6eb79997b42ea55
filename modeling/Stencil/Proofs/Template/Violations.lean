import Mathlib
import Stencil.Proofs.Document.Positions
import Stencil.Proofs.Template.Nested

/-!
# Template — violations

Where a template that is not expanded is at fault (`Template.refused_at_first_violation`). The text
in front of the token that is reported is one that is expanded once the operators that it leaves
open are closed (`Template.LeavesOpen`), and the token is what is wrong behind such a text
(`Template.Violation`); or the whole text leaves operators open, the innermost of which is reported.
-/

namespace Stencil.Template

open Text Markup
open Stencil.Bracket (WellNested)

variable {s e x w rest : List Char} {before ts later : List Token} {nesting left : Nesting}
  {t : Token} {c : Char} {b : Block} {fault : Option RegexFault}

/-! ### Scans with another end -/

/-- A brace stands at the start of such an operator, and nowhere else in it. -/
theorem Written.exists_lexeme_eq (h : Written t) : ∃ w, t.lexeme = '\x7b' :: w ∧ '\x7b' ∉ w := by
  have noBrace : ∀ {name : String}, IsName name → '\x7b' ∉ name.toList := fun word mem =>
    absurd (word _ mem) (by decide)
  cases h with
  | keyword mem =>
    simp only [fixedTokens, List.flatMap_cons, List.flatMap_nil, List.cons_append, List.nil_append,
      List.mem_cons, List.not_mem_nil, or_false] at mem
    rcases mem with rfl | rfl | rfl | rfl | rfl | rfl | rfl | rfl | rfl | rfl <;>
      exact ⟨_, rfl, by decide⟩
  | opening word => exact ⟨_, rfl, by simpa [Block.word] using noBrace word⟩
  | closing word => exact ⟨_, rfl, by simpa [Block.word] using noBrace word⟩

/-- A text that is empty or starts with a brace. Nothing that is read in front of it goes on in
it. -/
def Detached (s : List Char) : Prop := ∀ c ∈ s.head?, c = '\x7b'

theorem prefix_of_detached (detached : Detached e) (single : '\x7b' ∉ w)
    (h : '\x7b' :: w <+: c :: (x ++ e)) : '\x7b' :: w <+: c :: x := by
  rw [List.cons_prefix_cons] at h ⊢
  refine ⟨h.1, ?_⟩
  rcases List.prefix_or_prefix_of_prefix h.2 (List.prefix_append x e) with inside | ⟨y, rfl⟩
  · exact inside
  · cases y with
    | nil => simp
    | cons d y =>
      -- what goes over the end of `x` has the brace of `e` in it
      obtain ⟨after, rfl⟩ := (List.prefix_append_right_inj x).mp h.2
      obtain rfl := detached d rfl
      exact absurd (by simp) single

/-- Whether an operator starts in front of an end is told without this end. -/
theorem startsWritten_of_detached (detached : Detached e) (h : StartsWritten (c :: (x ++ e)))
    (s : List Char) : StartsWritten (c :: (x ++ s)) := by
  obtain ⟨t, after, word, start⟩ := h
  obtain ⟨w, lexeme, single⟩ := word.exists_lexeme_eq
  have inside : '\x7b' :: w <+: c :: x :=
    prefix_of_detached detached single ⟨after, by rw [start, lexeme]⟩
  obtain ⟨y, eq⟩ := inside
  exact ⟨t, y ++ s, word, by rw [lexeme, ← List.append_assoc, eq, List.cons_append]⟩

/-- A token that is read in front of a text. -/
def Heads (t : Token) (s : List Char) : Prop :=
  ∀ ts fault, Scans s ts fault → Scans (t.lexeme ++ s) (t :: ts) fault

/-- The first token of a text is read in front of whatever the text goes on with behind some more
of it, as long as no operator comes about where it goes on. -/
theorem Scans.head (h : Scans s (t :: ts) fault) :
    ∃ rest, s = t.lexeme ++ rest ∧ Scans rest ts fault ∧
      ∀ x r e, rest = x ++ r → Detached e → Heads t (x ++ e) := by
  cases h with
  | written word behind => exact ⟨_, rfl, behind, fun _ _ _ _ _ _ _ => .written word⟩
  | @regex body after _ _ other given ends behind =>
    refine ⟨after, by simp [Token.lexeme], behind, ?_⟩
    rintro x r e rfl detached ts' fault' behind'
    have again : ¬StartsWritten ('\x7b' :: '/' :: (body ++ '/' :: '\x7d' :: (x ++ e))) := by
      intro starts
      refine other ?_
      have := startsWritten_of_detached (x := '/' :: (body ++ '/' :: '\x7d' :: x)) detached
        (by simpa using starts) r
      simpa using this
    simpa [Token.lexeme] using Scans.regex again given ends behind'
  | char other noSlash behind =>
    refine ⟨_, rfl, behind, ?_⟩
    rintro x r e rfl detached ts' fault' behind'
    refine .char (fun starts => other (startsWritten_of_detached detached starts r))
      (fun slash => ?_) behind'
    exact noSlash ((prefix_of_detached detached (by decide) slash).trans (List.prefix_append _ r))

/-- **A scan with another end.** Behind some of its tokens, a text can go on with whatever is empty
or starts with a brace. -/
theorem Scans.split (h : Scans s (before ++ later) fault) :
    ∃ rest, s = before.flatMap Token.lexeme ++ rest ∧ Scans rest later fault ∧
      ∀ e ts fault', Detached e → Scans e ts fault' →
        Scans (before.flatMap Token.lexeme ++ e) (before ++ ts) fault' := by
  induction before generalizing s with
  | nil => exact ⟨s, rfl, h, fun _ _ _ _ behind => behind⟩
  | cons t before ih =>
    obtain ⟨rest, rfl, behind, heads⟩ := Scans.head h
    obtain ⟨rest, rfl, behind, again⟩ := ih behind
    refine ⟨rest, by simp, behind, fun e ts fault' detached ends => ?_⟩
    simpa using heads _ _ e rfl detached _ _ (again e ts fault' detached ends)

/-! ### Open operators -/

/-- The operators that are open behind a row of tokens, the innermost first, each with the byte at
which it stands: what stands between two of them is well nested. -/
inductive Opens : List Token → Nesting → Prop
  | nothing {ts : List Token} : WellNested (brackets ts) → Opens ts []
  | more {before inside : List Token} {b : Block} {outer : Nesting} : Opens before outer →
      WellNested (brackets inside) →
      Opens (before ++ .opening b :: inside)
        ((b, byteLength (before.flatMap Token.lexeme)) :: outer)

theorem Opens.append (h : Opens before nesting) (inside : WellNested (brackets ts)) :
    Opens (before ++ ts) nesting := by
  cases h with
  | nothing whole =>
    refine .nothing ?_
    rw [brackets_append]
    exact whole.append inside
  | more outer between =>
    rw [List.append_assoc, List.cons_append]
    refine .more outer ?_
    rw [brackets_append]
    exact between.append inside

/-- A token that is accepted changes what is open as its bracket does. -/
theorem Opens.step (h : Opens before nesting)
    (step : nesting.step (byteLength (before.flatMap Token.lexeme)) t = .ok left) :
    Opens (before ++ [t]) left := by
  cases t with
  | char | something | regex =>
    cases step
    exact h.append .nil
  | option =>
    obtain ⟨rfl, -⟩ := step_option_eq_ok_iff.mp step
    exact h.append .nil
  | opening b =>
    obtain ⟨rfl, -⟩ := step_opening_eq_ok_iff.mp step
    exact .more h .nil
  | closing b =>
    obtain ⟨at_, rfl⟩ := step_closing_eq_ok_iff.mp step
    cases h with
    | @more before inside _ _ outer between =>
      have pair : WellNested (brackets (.opening b :: (inside ++ [.closing b]))) := by
        change WellNested (.opening b :: brackets (inside ++ [.closing b]))
        rw [brackets_append]
        exact .pair between .nil
      rw [List.append_assoc, List.cons_append]
      exact outer.append pair

theorem Opens.run (h : Opens before nesting) {behind : Nat}
    (run : Nesting.run (byteLength (before.flatMap Token.lexeme)) nesting ts = .ok (left, behind)) :
    Opens (before ++ ts) left ∧ behind = byteLength ((before ++ ts).flatMap Token.lexeme) := by
  induction ts generalizing before nesting with
  | nil =>
    cases run
    rw [List.append_nil]
    exact ⟨h, rfl⟩
  | cons t ts ih =>
    obtain ⟨next, step, run⟩ := ok_of_bind run
    have := ih (h.step step)
    rw [List.flatMap_append, List.flatMap_singleton, byteLength_append, List.append_assoc] at this
    exact this run

theorem Opens.run_start {behind : Nat} (run : Nesting.run 0 [] ts = .ok (left, behind)) :
    Opens ts left ∧ behind = byteLength (ts.flatMap Token.lexeme) := by
  have start : Opens [] [] := .nothing .nil
  exact start.run run

theorem not_wellNested_of_opening {inside : List Token} (between : WellNested (brackets inside)) :
    ¬WellNested (brackets (before ++ .opening b :: inside)) := by
  rw [brackets_append]
  exact Bracket.not_wellNested_of_opening between

/-- **What a row of tokens leaves open is told in one way.** -/
theorem Opens.unique {nesting' : Nesting} (h : Opens ts nesting) (h' : Opens ts nesting') :
    nesting = nesting' := by
  induction h generalizing nesting' with
  | nothing whole =>
    cases h' with
    | nothing _ => rfl
    | more _ between => exact absurd whole (not_wellNested_of_opening between)
  | @more before inside b outer _ between ih =>
    generalize same : before ++ .opening b :: inside = row at h'
    cases h' with
    | nothing whole => exact absurd (same ▸ whole) (not_wellNested_of_opening between)
    | @more before' inside' b' outer' front' between' =>
      -- of two operators that are open, the one in front is not the innermost one
      rcases List.append_eq_append_iff.mp same with
        ⟨_ | ⟨u, mid⟩, rfl, eq⟩ | ⟨_ | ⟨u, mid⟩, rfl, eq⟩
      · cases eq
        rw [List.append_nil] at front' ⊢
        rw [ih front']
      · cases eq
        exact absurd between (not_wellNested_of_opening between')
      · cases eq
        rw [List.append_nil, ih (by simpa using front')]
      · cases eq
        exact absurd between' (not_wellNested_of_opening between)

/-- A text that stands in another one at a byte. -/
def StandsAt (s token : List Char) (offset : Nat) : Prop :=
  ∃ front behind, s = front ++ token ++ behind ∧ byteLength front = offset

/-- Each operator that is open stands at its byte. -/
theorem Opens.standsAt (h : Opens ts nesting) {o : Block × Nat} (mem : o ∈ nesting) :
    StandsAt (ts.flatMap Token.lexeme) o.1.opening o.2 := by
  induction h with
  | nothing => cases mem
  | @more before inside b outer _ _ ih =>
    rcases List.mem_cons.mp mem with rfl | mem
    · exact ⟨before.flatMap Token.lexeme, inside.flatMap Token.lexeme, by simp [Token.lexeme], rfl⟩
    · obtain ⟨front, behind, split, offset⟩ := ih mem
      exact ⟨front, behind ++ (Token.opening b :: inside).flatMap Token.lexeme, by simp [split],
        offset⟩

theorem Opens.lt (h : Opens ts nesting) {o : Block × Nat} (mem : o ∈ nesting) :
    o.2 < byteLength (ts.flatMap Token.lexeme) := by
  obtain ⟨front, behind, split, offset⟩ := h.standsAt mem
  have opened : 0 < byteLength o.1.opening := by
    rw [Block.opening, List.cons_append, byteLength]
    exact Nat.add_pos_left (Char.utf8Size_pos _) _
  rw [split, byteLength_append, byteLength_append, ← offset]
  omega

/-- The innermost operator stands behind the others. -/
theorem Opens.lt_innermost {innermost : Block × Nat} (h : Opens ts (innermost :: nesting))
    {o : Block × Nat} (mem : o ∈ nesting) : o.2 < innermost.2 := by
  cases h with
  | more outer _ => exact outer.lt mem

/-- The closing operators of the operators that are open. -/
def Nesting.closings (nesting : Nesting) : List Token := nesting.map fun o => .closing o.1

theorem run_closings (nesting : Nesting) :
    ∀ offset, ∃ behind, Nesting.run offset nesting nesting.closings = .ok ([], behind) := by
  induction nesting with
  | nil => exact fun offset => ⟨offset, rfl⟩
  | cons o outer ih =>
    intro offset
    obtain ⟨behind, run⟩ := ih (offset + byteLength (Token.closing o.1).lexeme)
    refine ⟨behind, ?_⟩
    rw [Nesting.closings, List.map_cons, Nesting.run, Nesting.step, if_pos rfl, ok_bind]
    exact run

/-- Where a row of tokens is refused, one of them is, behind some that are accepted. -/
theorem exists_refused {offset : Nat} {e : TemplateError}
    (h : Nesting.run offset nesting ts = .error e) :
    ∃ before t later left behind, ts = before ++ t :: later ∧
      Nesting.run offset nesting before = .ok (left, behind) ∧ left.step behind t = .error e := by
  induction ts generalizing offset nesting with
  | nil => cases h
  | cons t ts ih =>
    rcases error_of_bind h with here | ⟨next, step, behind⟩
    · exact ⟨[], t, ts, nesting, offset, rfl, rfl, here⟩
    · obtain ⟨before, u, later, left, at_, rfl, run, refused⟩ := ih behind
      refine ⟨t :: before, u, later, left, at_, rfl, ?_, refused⟩
      rw [Nesting.run, step, ok_bind, run]

/-! ### Texts that leave operators open -/

/-- The operators that a text leaves open. No regular expression in it is empty or has no end. -/
def LeavesOpen (s : List Char) (nesting : Nesting) : Prop :=
  ∃ ts, Scans s ts none ∧ Opens ts nesting

theorem LeavesOpen.unique {nesting' : Nesting} (h : LeavesOpen s nesting)
    (h' : LeavesOpen s nesting') : nesting = nesting' := by
  obtain ⟨ts, scans, opens⟩ := h
  obtain ⟨ts', scans', opens'⟩ := h'
  cases scans.eq_ofSource.symm.trans scans'.eq_ofSource
  exact opens.unique opens'

theorem Opens.mem (h : Opens ts nesting) {o : Block × Nat} (mem : o ∈ nesting) :
    .opening o.1 ∈ ts := by
  induction h with
  | nothing => cases mem
  | more _ _ ih =>
    rcases List.mem_cons.mp mem with rfl | mem
    · simp
    · exact List.mem_append_left _ (ih mem)

theorem Scans.written_of_opening (h : Scans s ts fault) (mem : .opening b ∈ ts) :
    Written (.opening b) := by
  induction h with
  | nothing | empty | unterminated => cases mem
  | written word _ ih =>
    rcases List.mem_cons.mp mem with rfl | mem
    · exact word
    · exact ih mem
  | regex _ _ _ _ ih => exact ih ((List.mem_cons.mp mem).resolve_left nofun)
  | char _ _ _ ih => exact ih ((List.mem_cons.mp mem).resolve_left nofun)

/-- What can be opened can be closed. -/
theorem Written.closing_of_opening (h : Written (.opening b)) : Written (.closing b) := by
  cases h with
  | keyword mem =>
    refine .keyword ?_
    cases b with
    | capture name => simp [fixedTokens] at mem
    | but | many | scope | either => decide
  | opening word => exact .closing word

/-- The text that closes what is open. -/
def Nesting.closingText (nesting : Nesting) : List Char := nesting.flatMap fun o => o.1.closing

theorem detached_closingText (nesting : Nesting) : Detached nesting.closingText := by
  cases nesting with
  | nil => exact nofun
  | cons o outer =>
    intro c first
    exact (Option.some.inj first).symm

theorem scans_closingText (words : ∀ o ∈ nesting, Written (.opening o.1)) :
    Scans nesting.closingText nesting.closings none := by
  induction nesting with
  | nil => exact .nothing
  | cons o outer ih =>
    obtain ⟨word, words⟩ := List.forall_mem_cons.mp words
    exact .written word.closing_of_opening (ih words)

/-- Tokens that a text starts with, all of them in their places: the text of them leaves open what
they do, and is expanded once this is closed. -/
theorem closes_of_run (h : Scans s (before ++ later) fault) {behind : Nat}
    (run : Nesting.run 0 [] before = .ok (nesting, behind)) :
    LeavesOpen (before.flatMap Token.lexeme) nesting ∧
      behind = byteLength (before.flatMap Token.lexeme) ∧
      ∃ markup, expand (String.ofList (before.flatMap Token.lexeme ++ nesting.closingText)) =
        .ok markup := by
  obtain ⟨opens, offset⟩ := Opens.run_start run
  obtain ⟨rest, -, -, again⟩ := h.split
  have words : ∀ o ∈ nesting, Written (.opening o.1) := fun o mem =>
    h.written_of_opening (List.mem_append_left _ (opens.mem mem))
  have alone := again [] [] none nofun .nothing
  rw [List.append_nil, List.append_nil] at alone
  refine ⟨⟨before, alone, opens⟩, offset, ?_⟩
  have closed := (again _ _ _ (detached_closingText nesting) (scans_closingText words)).eq_ofSource
  obtain ⟨end_, run'⟩ := run_closings nesting behind
  refine ⟨String.ofList ((before ++ nesting.closings).flatMap Token.markup), ?_⟩
  rw [expand, String.toList_ofList, closed, Tokens.expand, run_append _ _ run, run']
  rfl

/-! ### Violations -/

/-- What is wrong with a token at a byte of a text, where operators are open in front of it and the
text goes on behind it; and how it is reported. -/
inductive Violation (nesting : Nesting) (offset : Nat) (behind : List Char) :
    List Char → TemplateError → Prop
  /-- An `or` that is not directly in an `either`. -/
  | option : (∀ at_ outer, nesting ≠ (.either, at_) :: outer) →
      Violation nesting offset behind Token.option.lexeme (.optionOutsideAlternative offset)
  /-- A capture whose name does not start with a small letter. -/
  | name {name : String} : IsName name → isCaptureName name = false →
      Violation nesting offset behind (Block.capture name).opening (.invalidCaptureName name offset)
  /-- A closing operator where nothing is open. -/
  | unexpected {b : Block} : nesting = [] →
      Violation nesting offset behind b.closing (.unexpectedClose (String.ofList b.closing) offset)
  /-- A closing operator that does not close the innermost open one. -/
  | mismatched {b innermost : Block} {at_ : Nat} {outer : Nesting} :
      nesting = (innermost, at_) :: outer → innermost ≠ b →
      Violation nesting offset behind b.closing
        (.mismatchedClose (String.ofList innermost.opening) (String.ofList b.closing) offset)
  /-- A regular expression that is empty. -/
  | empty : Violation nesting offset behind ['\x7b', '/', '\x7d'] (.emptyRegex offset)
  /-- A brace and a slash that start no other operator, with no end of a body behind them. -/
  | unterminated : ¬StartsWritten ('\x7b' :: '/' :: behind) → behind.head? ≠ some '\x7d' →
      (∀ body after, Body false body → behind ≠ body ++ '/' :: '\x7d' :: after) →
      Violation nesting offset behind ['\x7b', '/'] (.unterminatedRegex offset)

/-- A token that is refused is an operator that is out of its place. -/
theorem Violation.of_step {offset : Nat} {e : TemplateError} (word : Written t)
    (refused : nesting.step offset t = .error e) (behind : List Char) :
    Violation nesting offset behind t.lexeme e := by
  cases t with
  | char | something | regex => cases refused
  | option =>
    rcases nesting with _ | ⟨⟨innermost, at_⟩, outer⟩
    · cases refused
      exact .option (by simp)
    · cases innermost with
      | either => cases refused
      | but | many | scope | capture =>
        cases refused
        exact .option (by simp)
  | opening b =>
    cases b with
    | but | many | scope | either => cases refused
    | capture name =>
      have isName : IsName name := by
        cases word with
        | keyword mem => simp [fixedTokens] at mem
        | opening isName => exact isName
      by_cases small : isCaptureName name
      · simp [Nesting.step, small] at refused
      · simp only [Nesting.step, if_neg small, Except.error.injEq] at refused
        exact refused ▸ .name isName (by simpa using small)
  | closing b =>
    rcases nesting with _ | ⟨⟨innermost, at_⟩, outer⟩
    · cases refused
      exact .unexpected rfl
    · by_cases same : innermost = b
      · simp [Nesting.step, same] at refused
      · simp only [Nesting.step, if_neg same, Except.error.injEq] at refused
        exact refused ▸ .mismatched rfl same

/-- A token that is refused is told by how it is written. -/
theorem written_of_refused {offset : Nat} {e : TemplateError} (h : Scans s (t :: ts) fault)
    (refused : nesting.step offset t = .error e) :
    Written t ∧ ∃ behind, s = t.lexeme ++ behind := by
  cases h with
  | written word _ => exact ⟨word, _, rfl⟩
  | regex | char => cases refused

/-- Where a text is at fault: a token, with the text in front of it and the text behind it. -/
structure FirstViolation (s : List Char) (e : TemplateError) (front token behind : List Char)
    (nesting : Nesting) : Prop where
  split : s = front ++ token ++ behind
  /-- The operators that are open in front of the token. -/
  opens : LeavesOpen front nesting
  only : ∀ other, LeavesOpen front other → other = nesting
  /-- Once they are closed, nothing is wrong in front of the token. -/
  closes : ∃ markup, expand (String.ofList (front ++ nesting.closingText)) = .ok markup
  violation : Violation nesting (byteLength front) behind token e
  /-- The token is at fault whatever stands behind it, unless an end is missing there. -/
  stays : e ≠ .unterminatedRegex (byteLength front) →
    ∀ other, expand (String.ofList (front ++ token ++ other)) = .error e

theorem expand_of_run_error {e : TemplateError} (h : Scans s ts fault)
    (run : Nesting.run 0 [] ts = .error e) : expand (String.ofList s) = .error e := by
  rw [expand, String.toList_ofList, h.eq_ofSource, Tokens.expand, run]
  rfl

theorem expand_of_run_fault {f : RegexFault} {behind : Nat} (h : Scans s ts (some f))
    (run : Nesting.run 0 [] ts = .ok (nesting, behind)) :
    expand (String.ofList s) = .error (f.error behind) := by
  rw [expand, String.toList_ofList, h.eq_ofSource, Tokens.expand, run]
  rfl

theorem firstViolation_of_step {e : TemplateError} {behind : Nat}
    (h : Scans s (before ++ t :: later) fault)
    (run : Nesting.run 0 [] before = .ok (nesting, behind))
    (refused : nesting.step behind t = .error e) :
    ∃ after, FirstViolation s e (before.flatMap Token.lexeme) t.lexeme after nesting := by
  obtain ⟨opens, rfl, closes⟩ := closes_of_run h run
  obtain ⟨_, rfl, ends, again⟩ := h.split
  obtain ⟨word, after, rfl⟩ := written_of_refused ends refused
  refine ⟨after, by rw [List.append_assoc], opens, fun _ other => other.unique opens, closes,
    .of_step word refused after, fun _ other => ?_⟩
  have detached : Detached (t.lexeme ++ other) := by
    obtain ⟨w, lexeme, -⟩ := word.exists_lexeme_eq
    rw [lexeme]
    exact fun c first => (Option.some.inj first).symm
  rw [List.append_assoc]
  refine expand_of_run_error (again _ _ _ detached (.written word (scans_ofSource other))) ?_
  rw [run_append _ _ run, Nesting.run, refused]
  rfl

theorem firstViolation_of_fault {f : RegexFault} {behind : Nat} (h : Scans s ts (some f))
    (run : Nesting.run 0 [] ts = .ok (nesting, behind)) :
    ∃ token after, FirstViolation s (f.error behind) (ts.flatMap Token.lexeme) token after
      nesting := by
  rw [← List.append_nil ts] at h
  obtain ⟨opens, rfl, closes⟩ := closes_of_run h run
  obtain ⟨rest, rfl, ends, again⟩ := h.split
  generalize whole : some f = fault at ends
  cases ends with
  | nothing => cases whole
  | @empty rest =>
    cases whole
    refine ⟨_, rest, by simp, opens, fun _ other => other.unique opens, closes, .empty,
      fun _ other => ?_⟩
    have scans := again ('\x7b' :: '/' :: '\x7d' :: other) [] _
      (fun c first => (Option.some.inj first).symm) .empty
    rw [List.append_nil] at scans
    rw [List.append_assoc]
    exact expand_of_run_fault scans run
  | @unterminated rest noOther given endless =>
    cases whole
    exact ⟨_, rest, by simp, opens, fun _ other => other.unique opens, closes,
      .unterminated noOther given endless, fun differs => absurd rfl differs⟩

/-- **A template that is not expanded is at fault where this is reported.** Either the whole text
leaves operators open, and the innermost of them is reported, which stands behind the others. Or
the token that is reported stands at the byte that is reported, whatever the text in front of it.
This text is expanded once the operators that it leaves open are closed; the token is what is wrong
behind it, and is reported whatever stands behind it, unless it is an expression without an end. A
closing operator is reported with the innermost operator that is open in front of it. -/
theorem refused_at_first_violation {template : String} {e : TemplateError}
    (refused : expand template = .error e) :
    (∃ innermost at_ outer, e = .unterminatedOperator (String.ofList innermost.opening) at_ ∧
      LeavesOpen template.toList ((innermost, at_) :: outer) ∧
      (∀ nesting, LeavesOpen template.toList nesting → nesting = (innermost, at_) :: outer) ∧
      StandsAt template.toList innermost.opening at_ ∧ ∀ o ∈ outer, o.2 < at_) ∨
    ∃ front token behind nesting,
      FirstViolation template.toList e front token behind nesting := by
  obtain ⟨ts, fault, scans⟩ := exists_scans template.toList
  rw [expand, scans.eq_ofSource] at refused
  cases nested : Nesting.run 0 [] ts with
  | error e' =>
    rw [Tokens.expand, nested] at refused
    cases refused
    obtain ⟨before, t, later, nesting, behind, rfl, run, refused⟩ := exists_refused nested
    obtain ⟨after, first⟩ := firstViolation_of_step scans run refused
    exact .inr ⟨_, _, after, _, first⟩
  | ok ends =>
    obtain ⟨nesting, behind⟩ := ends
    rw [Tokens.expand, nested, ok_bind] at refused
    cases fault with
    | some f =>
      cases refused
      obtain ⟨token, after, first⟩ := firstViolation_of_fault scans nested
      exact .inr ⟨_, token, after, _, first⟩
    | none =>
      cases nesting with
      | nil => cases refused
      | cons innermost outer =>
        cases refused
        obtain ⟨opens, -⟩ := Opens.run_start nested
        have whole := scans.lexemes rfl
        exact .inl ⟨_, _, outer, rfl, ⟨ts, scans, opens⟩, fun _ other =>
          other.unique ⟨ts, scans, opens⟩, whole ▸ opens.standsAt List.mem_cons_self,
          fun o mem => opens.lt_innermost mem⟩

/-- A closing operator with another name, behind a letter of two bytes. -/
theorem refused_at_other_name :
    ∃ e, expand "\u00e4\x7bmany\x7d\x7b$b\x7dx\x7b/$c\x7d" = .error e ∧
      e = .mismatchedClose "\x7b$b\x7d" "\x7b/$c\x7d" 13 ∧
      ∃ front token behind nesting, FirstViolation
        "\u00e4\x7bmany\x7d\x7b$b\x7dx\x7b/$c\x7d".toList e front token behind nesting := by
  have refused : expand "\u00e4\x7bmany\x7d\x7b$b\x7dx\x7b/$c\x7d" =
      .error (.mismatchedClose "\x7b$b\x7d" "\x7b/$c\x7d" 13) := by cbv
  refine ⟨_, refused, rfl, ?_⟩
  rcases refused_at_first_violation refused with ⟨_, _, _, other, -⟩ | first
  · cases other
  · exact first

end Stencil.Template
