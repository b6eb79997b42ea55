import Stencil.Text.CategoryTable
import Stencil.Text.CodeRanges

/-!
# Text — Category

The general category of a character, from the table of runs.
-/

namespace Stencil.Text

/-- The general categories of characters. -/
inductive Category where
  | upper | lower | title | modifierLetter | otherLetter
  | nonspacingMark | spacingMark | enclosingMark
  | decimal | letterNumber | otherNumber
  | connector | dash | opening | closing | initialQuote | finalQuote | otherPunctuation
  | math | currency | modifierSymbol | otherSymbol
  | space | line | paragraph
  | control | format | surrogate | privateUse | unassigned
  deriving DecidableEq, Repr

namespace Category

/-- Every category with its two-letter name. -/
def names : List (String × Category) :=
  [("Lu", upper), ("Ll", lower), ("Lt", title), ("Lm", modifierLetter), ("Lo", otherLetter),
   ("Mn", nonspacingMark), ("Mc", spacingMark), ("Me", enclosingMark),
   ("Nd", decimal), ("Nl", letterNumber), ("No", otherNumber),
   ("Pc", connector), ("Pd", dash), ("Ps", opening), ("Pe", closing),
   ("Pi", initialQuote), ("Pf", finalQuote), ("Po", otherPunctuation),
   ("Sm", math), ("Sc", currency), ("Sk", modifierSymbol), ("So", otherSymbol),
   ("Zs", space), ("Zl", line), ("Zp", paragraph),
   ("Cc", control), ("Cf", format), ("Cs", surrogate), ("Co", privateUse), ("Cn", unassigned)]

/-- A run of the table: its category and its length. -/
def run (word : List Char) : Category × Nat :=
  ((names.lookup (String.ofList (word.take 2))).getD unassigned,
    (numeral? 10 (word.drop 2)).getD 0)

/-- The categories of consecutive runs, each with the code point after its run. -/
def runEnds : Nat → List (Category × Nat) → List (Nat × Category)
  | _, [] => []
  | start, (c, n) :: rest => (start + n, c) :: runEnds (start + n) rest

/-- The table: in increasing order, the code point after each run, and the category of the run. -/
def table : Array (Nat × Category) := (runEnds 0 ((words categoryRuns).map run)).toArray

/-- The general category of a character. -/
def of (c : Char) : Category :=
  let endsAfter (i : Nat) : Bool := table[i]?.any (c.toNat < ·.1)
  (table[firstIndex endsAfter 0 table.size]?.map (·.2)).getD unassigned

/-- The ranges of runs whose category is in a list, from a code point on. -/
def rangesFrom (cs : List Category) : Nat → List (Nat × Category) → List (Nat × Nat)
  | _, [] => []
  | start, (stop, c) :: rest =>
    if c ∈ cs then (start, stop - 1) :: rangesFrom cs stop rest else rangesFrom cs stop rest

/-- The code points whose category is in a list. -/
def codes (cs : List Category) : CodeRanges := .ofList (rangesFrom cs 0 table.toList)

/-- The letters. -/
def letters : List Category := [upper, lower, title, modifierLetter, otherLetter]

/-- The marks. -/
def marks : List Category := [nonspacingMark, spacingMark, enclosingMark]

/-- The numbers. -/
def numbers : List Category := [decimal, letterNumber, otherNumber]

end Category

end Stencil.Text
