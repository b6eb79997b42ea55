import Stencil.Regex.Expr

/-!
# Regex — Normal form

Expressions in the form in which they are held. Rows and choices are flat, neighbouring texts are
one text, a choice between characters is a set, branches that begin alike share their beginning, and
a repetition that comes to one round or to none is not kept. The form has no other matches than what
it is made from.
-/

namespace Stencil.Regex

namespace Expr

/-! ### Measures -/

/-- How many constructors an expression has. -/
def size : Expr → Nat
  | group _ body => body.size + 1
  | repeated _ _ _ body => body.size + 1
  | seq first second => first.size + second.size + 1
  | alt first second => first.size + second.size + 1
  | _ => 1

/-- The number of characters in the shortest match, if a text can match at all. -/
def shortest? : Expr → Option Nat
  | empty => some 0
  | text cs => some cs.length
  | set s => if s.ranges.isEmpty then none else some 1
  | look _ => some 0
  | group _ body => body.shortest?
  | repeated least _ _ body => body.shortest?.map (· * least)
  | seq first second => do return (← first.shortest?) + (← second.shortest?)
  | alt first second => do return min (← first.shortest?) (← second.shortest?)

/-- The number of characters in the longest match, if there is such a number. -/
def longest? : Expr → Option Nat
  | empty => some 0
  | text cs => some cs.length
  | set s => if s.ranges.isEmpty then none else some 1
  | look _ => some 0
  | group _ body => body.longest?
  | repeated _ most _ body => do return (← body.longest?) * (← most)
  | seq first second => do return (← first.longest?) + (← second.longest?)
  | alt first second => do return max (← first.longest?) (← second.longest?)

/-- Whether every match begins at the start of the text. -/
def fromStart : Expr → Bool
  | look l => l = .textStart
  | group _ body => body.fromStart
  | repeated least _ _ body => 0 < least && body.fromStart
  | seq first second => first.fromStart || first.longest? = some 0 && second.fromStart
  | alt first second => first.fromStart && second.fromStart
  | _ => false

/-- Whether every match ends at the end of the text. -/
def toEnd : Expr → Bool
  | look l => l = .textEnd
  | group _ body => body.toEnd
  | repeated least _ _ body => 0 < least && body.toEnd
  | seq first second => second.toEnd || second.longest? = some 0 && first.toEnd
  | alt first second => first.toEnd && second.toEnd
  | _ => false

/-! ### Sets and repetitions -/

/-- The expression of a set: a text if it has one character. -/
def ofSet (s : CharSet) : Expr :=
  match s.single? with
  | some n => text [Char.ofNat n]
  | none => set s

/-- The expression of a repetition. More than one round of nothing is one round, no round is
nothing, and one round is the body. -/
def repeating (least : Nat) (most : Option Nat) (greedy : Bool) (body : Expr) : Expr :=
  let idle := body.longest? = some 0
  let least := if idle then min least 1 else least
  let most := if idle then some (min (most.getD 1) 1) else most
  if most = some 0 then empty
  else if least = 1 ∧ most = some 1 then body
  else repeated least most greedy body

/-! ### Rows -/

/-- The expressions that follow one another in an expression. -/
def parts : Expr → List Expr
  | empty => []
  | seq first second => first.parts ++ second.parts
  | e => [e]

/-- An expression before others, made one with the next if both are texts. -/
def before : Expr → List Expr → List Expr
  | text a, text b :: rest => text (a ++ b) :: rest
  | e, rest => e :: rest

/-- Expressions one after another. -/
def row : List Expr → Expr
  | [] => empty
  | [e] => e
  | e :: rest => seq e (row rest)

/-- The expression of a row of expressions. -/
def sequence (es : List Expr) : Expr := row ((es.flatMap parts).foldr before [])

/-! ### Choices -/

/-- The expressions between which an expression leaves the choice. -/
def branches : Expr → List Expr
  | alt first second => first.branches ++ second.branches
  | e => [e]

/-- Expressions one of which is to match; without any there is no match. -/
def fork : List Expr → Expr
  | [] => set .empty
  | [e] => e
  | e :: rest => alt e (fork rest)

/-- The character of an expression that is one character. -/
def char? : Expr → Option Char
  | text [c] => some c
  | _ => none

/-- The set of an expression that is a set. -/
def set? : Expr → Option CharSet
  | set s => some s
  | _ => none

/-- The characters of an expression that is a text. -/
def text? : Expr → Option (List Char)
  | text cs => some cs
  | _ => none

/-- The beginning that two rows have in common. -/
def commonStart : List Expr → List Expr → List Expr
  | a :: as, b :: bs => if a = b then a :: commonStart as bs else []
  | _, _ => []

/-- The beginning that all rows have in common, if each has two parts or more. -/
def sharedStart : List (List Expr) → List Expr
  | [] => []
  | first :: rest =>
    if (first :: rest).all (2 ≤ ·.length) then rest.foldl commonStart first else []

/-- The expression of a choice. The number bounds how often a common beginning is taken out, which
makes the branches smaller each time. -/
def choiceWithin (n : Nat) (es : List Expr) : Expr :=
  match es.flatMap branches with
  | [] => set .empty
  | [e] => e
  | all =>
    match all.mapM char?, all.mapM set? with
    | some cs, _ => ofSet (.ofList (cs.map fun c => (c.toNat, c.toNat)))
    | none, some ss => ofSet (.ofList (ss.flatMap (·.ranges.toList)))
    | none, none =>
      let rows := all.map parts
      let start := sharedStart rows
      match n with
      | 0 => fork all
      | n + 1 =>
        if start.isEmpty then fork all
        else sequence (start ++ [choiceWithin n (rows.map (sequence <| ·.drop start.length))])

/-- The expression of a choice between expressions. -/
def choice (es : List Expr) : Expr := choiceWithin (es.foldl (fun n e => n + e.size) 0) es

end Expr

end Stencil.Regex
