import Stencil.Proofs.Matching.Verdict

/-!
# Matching — languages

The language of a pattern (`Pattern.Denotes`), which are the rows of siblings that it stands for;
the matches in which every part of a pattern is tried on the level that it is written on
(`Pattern.Level`); and those in which, besides, no part is passed over (`Pattern.Settled`).
-/

namespace Stencil

namespace Pattern

/-- The rows of siblings that a pattern stands for. A chain stands for rows of its parts, one behind
the other. Texts, scopes and captures are the last of their chain. What looks ahead is told by what
it sees: a regular expression by a whole run of texts, a forbidden pattern by the row on which it is
tried, and a branch of an alternative that stands for one sibling by a row that starts with this
one. -/
inductive Denotes : Pattern → List Site → Prop
  | nil : Denotes nil []
  | element {tag : String} {child next : Pattern} {place : Place} {children rest : List Site} :
      Denotes child children → Denotes next rest →
      Denotes (node (.element tag) child next) (.element place tag children :: rest)
  | literal {content : String} {child next : Pattern} {place : Place} {rest : List Site} :
      Denotes (node (.literal content) child next) (.text place content :: rest)
  | search {regex : Regex} {child next : Pattern} {row : List Site} :
      Matcher.startsWithText row → regex.isMatch (Matcher.textRun row) →
      Denotes (node (.search regex) child next) row
  | wildcard {child next : Pattern} (skipped : List Site) {rest : List Site} :
      Denotes next rest → Denotes (node .wildcard child next) (skipped ++ rest)
  | anything {row : List Site} : Denotes (node .wildcardExcept nil nil) row
  | unguarded {next : Pattern} {row : List Site} :
      next ≠ nil → Denotes next row → Denotes (node .wildcardExcept nil next) row
  | guarded {child next : Pattern} (skipped : List Site) {rest : List Site} :
      child ≠ nil → child.RejectsAlong skipped rest → Denotes next rest →
      Denotes (node .wildcardExcept child next) (skipped ++ rest)
  | many {child next : Pattern} (rounds : List (List Site)) {rest : List Site} :
      rounds ≠ [] → (∀ r ∈ rounds, Denotes child r) → Denotes next rest →
      Denotes (node .many child next) (rounds.flatten ++ rest)
  | scope {child next : Pattern} {row : List Site} :
      Denotes child row → Denotes (node .scope child next) row
  | capture {name : String} {child next : Pattern} {row : List Site} :
      Denotes child row → Denotes (node (.capture name) child next) row
  | either {child next branch : Pattern} {s : Site} (beside : List Site) {rest : List Site} :
      branch ∈ child :: child.branchesAfter → Denotes branch (s :: beside) → Denotes next rest →
      Denotes (node .either child next) (s :: rest)
  | eitherLast {child next branch : Pattern} (row : List Site) {rest : List Site} :
      (child :: child.branchesAfter).getLast? = some branch → Denotes branch row →
      Denotes next rest → Denotes (node .either child next) (row ++ rest)
  | option {child next : Pattern} {row : List Site} : Denotes (node .option child next) row

/-- Each round of a repetition of a pattern from a position runs out on the row that it started
on. -/
def StaysOnRow (child : Pattern) (pos : Position) : Prop :=
  ∀ x y, Relation.ReflTransGen child.Round pos x → child.Round x y → y <:+ x

/-- In the match of a pattern at a position, every part that has a share in the answer is tried on
the level that it is written on: repetitions and alternatives go on on their own row. If it is asked
for, the rest of a chain is valid behind an element whose children are left over. -/
inductive Keeps (settled : Prop) : Pattern → Position → Prop
  | rejected {p : Pattern} {pos : Position} : p.verdict pos = .invalid → Keeps settled p pos
  | nil {pos : Position} : Keeps settled nil pos
  | element {tag : String} {child next : Pattern} {place : Place} {children rest : List Site} :
      Keeps settled child children → Keeps settled next rest →
      (settled → (child.verdict children).isLeftover → (next.verdict rest).isValid) →
      Keeps settled (node (.element tag) child next) (.element place tag children :: rest)
  | literal {content : String} {child next : Pattern} {pos : Position} :
      Keeps settled (node (.literal content) child next) pos
  | search {regex : Regex} {child next : Pattern} {pos : Position} :
      Keeps settled (node (.search regex) child next) pos
  | wildcard {child next : Pattern} {pos : Position} :
      Keeps settled next (next.stop pos) → Keeps settled (node .wildcard child next) pos
  | unguarded {next : Pattern} {pos : Position} :
      Keeps settled next pos → Keeps settled (node .wildcardExcept nil next) pos
  | guarded {child next : Pattern} {pos : Position} :
      child ≠ nil → Keeps settled next (next.haven pos) →
      Keeps settled (node .wildcardExcept child next) pos
  | many {child next : Pattern} {pos resumed : Position} :
      (∀ x, Relation.ReflTransGen child.Round pos x → Keeps settled child x) →
      child.StaysOnRow pos → child.resume? pos = some resumed → Keeps settled next resumed →
      Keeps settled (node .many child next) pos
  | scope {child next : Pattern} {pos : Position} :
      Keeps settled child pos → Keeps settled (node .scope child next) pos
  | capture {name : String} {child next : Pattern} {pos : Position} :
      Keeps settled child pos → Keeps settled (node (.capture name) child next) pos
  | either {child next branch : Pattern} {s : Site} {rest : List Site} {resumed : Position} :
      taken? s rest (child :: child.branchesAfter) = some (branch, resumed) →
      Keeps settled branch (s :: rest) → resumed <:+ s :: rest → Keeps settled next resumed →
      Keeps settled (node .either child next) (s :: rest)
  | option {child next : Pattern} {pos : Position} : Keeps settled (node .option child next) pos

/-- Every part of a pattern that has a share in the answer at a position is tried on the level that
it is written on. -/
def Level (p : Pattern) (pos : Position) : Prop := p.Keeps False pos

/-- Every part of a pattern that has a share in the answer at a position is tried on the level that
it is written on, and no part is left to match behind an element whose children are left over. -/
def Settled (p : Pattern) (pos : Position) : Prop := p.Keeps True pos

end Pattern

end Stencil
