import Stencil.Text.Numeral

/-!
# Text — Code ranges

Sets of characters as increasing ranges of code points, searched by halving, with the operations on
sets, and maps that shift ranges of code points.
-/

namespace Stencil.Text

/-- The least index from `lo` on, below `hi`, at which a test holds that stays true once it is;
`hi` if there is none. -/
def firstIndex (test : Nat → Bool) (lo hi : Nat) : Nat :=
  if lo < hi then
    let mid := (lo + hi) / 2
    if test mid then firstIndex test lo mid else firstIndex test (mid + 1) hi
  else lo
termination_by hi - lo
decreasing_by all_goals omega

/-- A set of code points: ranges with both ends in the set, in increasing order and apart. -/
structure CodeRanges where
  ranges : Array (Nat × Nat)
  deriving DecidableEq

namespace CodeRanges

/-- Ranges in the order of their lower ends, with those that overlap or touch made one. -/
def coalesce : List (Nat × Nat) → List (Nat × Nat)
  | (a, b) :: (c, d) :: rest =>
    if c ≤ b + 1 then coalesce ((a, max b d) :: rest) else (a, b) :: coalesce ((c, d) :: rest)
  | few => few
termination_by rs => rs.length

/-- The code points of some ranges, in any order. -/
def ofList (rs : List (Nat × Nat)) : CodeRanges :=
  ⟨(coalesce (rs.mergeSort fun a b => a.1 ≤ b.1)).toArray⟩

/-- The ranges of a word: `41-5a` is a range, `aa` a single code point, and `100+136` every second
code point from the first to the last. -/
def ofWord (word : List Char) : List (Nat × Nat) :=
  match word.splitOnP (· == '-'), word.splitOnP (· == '+') with
  | [lo, hi], _ => [(hexadecimal lo, hexadecimal hi)]
  | _, [lo, hi] =>
    let first := hexadecimal lo
    (List.range' first ((hexadecimal hi - first) / 2 + 1) 2).map fun n => (n, n)
  | _, _ => [(hexadecimal word, hexadecimal word)]

/-- The code points that the words of a text write. -/
def ofText (s : String) : CodeRanges := ofList ((words s).flatMap ofWord)

/-- Whether a code point lies in a range. -/
def containsCode (s : CodeRanges) (n : Nat) : Bool :=
  let endsAtOrAfter (i : Nat) : Bool := s.ranges[i]?.any (n ≤ ·.2)
  s.ranges[firstIndex endsAtOrAfter 0 s.ranges.size]?.any (·.1 ≤ n)

/-- Whether the code point of a character lies in a range. -/
def contains (s : CodeRanges) (c : Char) : Bool := s.containsCode c.toNat

/-- The code point of a set that has no other. -/
def single? (s : CodeRanges) : Option Nat :=
  match s.ranges.toList with
  | [(a, b)] => if a = b then some a else none
  | _ => none

/-- No code point at all. -/
def empty : CodeRanges := ⟨#[]⟩

/-- The code points of either set. -/
def union (s t : CodeRanges) : CodeRanges := ofList (s.ranges.toList ++ t.ranges.toList)

/-- The code points from `n` on that lie in no range of an increasing list. -/
def gaps : Nat → List (Nat × Nat) → List (Nat × Nat)
  | n, [] => if n ≤ 0x10ffff then [(n, 0x10ffff)] else []
  | n, (a, b) :: rest => if n < a then (n, a - 1) :: gaps (b + 1) rest else gaps (b + 1) rest

/-- The code points that belong to no character by definition. -/
def surrogates : CodeRanges := ⟨#[(0xd800, 0xdfff)]⟩

/-- The code points of characters that are not in a set. -/
def compl (s : CodeRanges) : CodeRanges := ⟨(gaps 0 (s.union surrogates).ranges.toList).toArray⟩

/-- The code points of both sets. -/
def inter (s t : CodeRanges) : CodeRanges := (s.compl.union t.compl).compl

/-- The code points of the first set that are not in the second. -/
def diff (s t : CodeRanges) : CodeRanges := (s.compl.union t).compl

/-- The code points of exactly one of the sets. -/
def symmDiff (s t : CodeRanges) : CodeRanges := (s.diff t).union (t.diff s)

end CodeRanges

/-- A stretch of code points at a constant distance and where its first one is sent; the others
follow at the same distance. -/
structure CodeShift where
  first : Nat
  last : Nat
  step : Nat
  target : Nat

namespace CodeShift

/-- A shift written as `41-5a>61`, as `100+12e>101` when it takes every second code point, and as
`178>ff` when it takes one. -/
def ofWord (word : List Char) : CodeShift :=
  match word.splitOnP (· == '>') with
  | [stretch, image] =>
    match stretch.splitOnP (· == '-'), stretch.splitOnP (· == '+') with
    | [lo, hi], _ => ⟨hexadecimal lo, hexadecimal hi, 1, hexadecimal image⟩
    | _, [lo, hi] => ⟨hexadecimal lo, hexadecimal hi, 2, hexadecimal image⟩
    | _, _ => ⟨hexadecimal stretch, hexadecimal stretch, 1, hexadecimal image⟩
  | _ => ⟨1, 0, 1, 1⟩

/-- Where a shift sends a code point of its stretch. -/
def image? (s : CodeShift) (n : Nat) : Option Nat :=
  if s.first ≤ n ∧ n ≤ s.last ∧ (n - s.first) % s.step = 0 then some (s.target + (n - s.first))
  else none

/-- The code points of a shift, each with where it is sent. -/
def pairs (s : CodeShift) : List (Nat × Nat) :=
  (List.range ((s.last - s.first) / s.step + 1)).map fun i =>
    (s.first + i * s.step, s.target + i * s.step)

end CodeShift

end Stencil.Text
