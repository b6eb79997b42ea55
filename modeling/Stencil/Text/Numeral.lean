/-!
# Text — Numeral

Numbers written in a base up to sixteen, and the words of a text.
-/

namespace Stencil.Text

/-- The value of a digit, where the letters `a` to `f` of either case go on after `9`. -/
def digitValue? (c : Char) : Option Nat :=
  if '0' ≤ c ∧ c ≤ '9' then some (c.toNat - 48)
  else if 'a' ≤ c ∧ c ≤ 'f' then some (c.toNat - 87)
  else if 'A' ≤ c ∧ c ≤ 'F' then some (c.toNat - 55)
  else none

/-- The value of a digit of the base. -/
def digit? (base : Nat) (c : Char) : Option Nat :=
  (digitValue? c).filter (· < base)

/-- The number that a nonempty row of digits writes, the most significant digit first. -/
def numeral? (base : Nat) (cs : List Char) : Option Nat :=
  if cs.isEmpty then none
  else cs.foldlM (fun n c => (digit? base c).map (n * base + ·)) 0

/-- The number that a row of hexadecimal digits writes, zero if it writes none. -/
def hexadecimal (cs : List Char) : Nat := (numeral? 16 cs).getD 0

/-- The stretches of a text between its spaces and line ends, the empty ones left out. -/
def words (s : String) : List (List Char) :=
  (s.toList.splitOnP fun c => c == ' ' || c == '\n').filter (!·.isEmpty)

end Stencil.Text
