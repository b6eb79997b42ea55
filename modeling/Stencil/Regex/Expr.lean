import Stencil.Regex.Property

/-!
# Regex — Expression

Expressions and what they match. An expression takes a set of positions in a text to the set of
positions at which a match that starts at one of them can end; a text has a match if the set of all
positions is taken to a set that is not empty. Sets of positions are numbers: the bit of weight
`2 ^ i` says whether position `i` is in the set.
-/

namespace Stencil.Regex

/-- The places about a word that a condition can ask for. -/
inductive WordEdge where
  | boundary | inside | start | stop | startHalf | stopHalf
  deriving DecidableEq

/-- Conditions on the characters before and after a position. -/
inductive Look where
  | textStart
  | textEnd
  | lineStart (crlf : Bool)
  | lineEnd (crlf : Bool)
  | word (edge : WordEdge) (unicode : Bool)
  deriving DecidableEq

/-- Whether the character on a side of a position is a word character. -/
def isWordAt (unicode : Bool) (c? : Option Char) : Bool :=
  c?.any (if unicode then CharSet.word.contains else CharSet.asciiWord.contains)

/-- Whether a word has an edge between two sides. -/
def WordEdge.between : WordEdge → Bool → Bool → Bool
  | boundary, before, after => before != after
  | inside, before, after => before == after
  | start, before, after => !before && after
  | stop, before, after => before && !after
  | startHalf, before, _ => !before
  | stopHalf, _, after => !after

/-- Whether a condition holds between two characters. -/
def Look.holds : Look → Option Char → Option Char → Bool
  | textStart, before, _ => before.isNone
  | textEnd, _, after => after.isNone
  | lineStart crlf, before, after =>
    before.isNone || before == some '\n' || crlf && before == some '\r' && after != some '\n'
  | lineEnd crlf, before, after =>
    after.isNone ||
      (if crlf then after == some '\r' || after == some '\n' && before != some '\r'
       else after == some '\n')
  | word edge unicode, before, after =>
    edge.between (isWordAt unicode before) (isWordAt unicode after)

/-- Regular expressions over characters. A repetition has a least number of rounds and, unless it
goes on for ever, a greatest; that it is greedy or not changes nothing in what it matches. -/
inductive Expr where
  | empty
  | text (cs : List Char)
  | set (s : CharSet)
  | look (l : Look)
  | group (index : Nat) (body : Expr)
  | repeated (least : Nat) (most : Option Nat) (greedy : Bool) (body : Expr)
  | seq (first second : Expr)
  | alt (first second : Expr)
  deriving DecidableEq

/-- The set of all positions below `n`. -/
def below : Nat → Nat
  | 0 => 0
  | n + 1 => 2 * below n + 1

/-- The members of a set of positions that pass a test on what the text has there. -/
def keep {α : Type} (test : α → Bool) : List α → Nat → Nat
  | [], _ => 0
  | a :: rest, s =>
    2 * keep test rest (s / 2) + (if s % 2 == 1 && test a then 1 else 0)

/-- The image of a set under a step, taken a number of times. -/
def times (step : Nat → Nat) : Nat → Nat → Nat
  | 0, s => s
  | n + 1, s => if s == 0 then 0 else times step n (step s)

/-- A set with all that a step reaches in a number of rounds from its newest members. -/
def spread (step : Nat → Nat) : Nat → Nat → Nat → Nat
  | 0, _, seen => seen
  | n + 1, newest, seen =>
    let next := (step newest ||| seen) ^^^ seen
    if next == 0 then seen else spread step n next (seen ||| next)

/-- The neighbours of each position of a text: the character before it and the one after it. -/
def gaps (before : Option Char) : List Char → List (Option Char × Option Char)
  | [] => [(before, none)]
  | c :: rest => (before, some c) :: gaps (some c) rest

namespace Expr

/-- Where matches that start in a set of positions of a text can end. -/
def reach (subject : List Char) : Expr → Nat → Nat
  | empty, s => s
  | text cs, s => cs.foldl (fun s c => 2 * keep (· == c) subject s) s
  | set accepted, s => 2 * keep accepted.contains subject s
  | look l, s => keep (fun g => l.holds g.1 g.2) (gaps none subject) s
  | group _ body, s => body.reach subject s
  | repeated least most _ body, s =>
    let from_ := times (body.reach subject) least s
    let further := (most.map (· - least)).getD (subject.length + 1)
    spread (body.reach subject) further from_ from_
  | seq first second, s => second.reach subject (first.reach subject s)
  | alt first second, s => first.reach subject s ||| second.reach subject s

/-- Whether an expression matches somewhere in a text. -/
def matches? (e : Expr) (subject : List Char) : Bool :=
  e.reach subject (below (subject.length + 1)) != 0

end Expr

end Stencil.Regex
