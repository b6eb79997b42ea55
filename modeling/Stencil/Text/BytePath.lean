/-!
# Text — Byte path

The bytes that write the characters of a range, as paths: in each place of a path any byte of a
range may stand, whatever stands in the other places. A character is written by a first byte that
tells how many follow, and by bytes that hold six bits each.
-/

namespace Stencil.Text

/-- Ranges of bytes, one for each place. -/
abbrev BytePath := List (Nat × Nat)

/-- The paths for the numbers from `lo` to `hi`, written in base 64 with as many digits after the
first as are asked for. Between the rows of the two ends, which may not be whole, lie whole rows. -/
def digitPaths : Nat → Nat → Nat → List BytePath
  | 0, lo, hi => [[(lo, hi)]]
  | places + 1, lo, hi =>
    let unit := Nat.pow 64 (places + 1)
    let (first, last) := (lo / unit, hi / unit)
    let under (digit from_ to_ : Nat) : List BytePath :=
      (digitPaths places from_ to_).map ((digit, digit) :: ·)
    if first = last then under first (lo % unit) (hi % unit)
    else
      let startsRow := lo % unit = 0
      let endsRow := hi % unit = unit - 1
      let next := if startsRow then first else first + 1
      let past := if endsRow then last + 1 else last
      (if startsRow then [] else under first (lo % unit) (unit - 1)) ++
        (if next < past then [(next, past - 1) :: List.replicate (places + 1) (0, 63)] else []) ++
        (if endsRow then [] else under last 0 (hi % unit))

/-- The lengths of written characters: the bytes after the first, the code points that are written
with so many, and what the first byte adds to its digit. -/
def byteLengths : List (Nat × (Nat × Nat) × Nat) :=
  [(0, (0, 0x7f), 0), (1, (0x80, 0x7ff), 0xc0), (2, (0x800, 0xffff), 0xe0),
   (3, (0x10000, 0x10ffff), 0xf0)]

/-- The paths for the characters of a range of code points. -/
def bytePaths (range : Nat × Nat) : List BytePath :=
  byteLengths.flatMap fun (places, (least, greatest), lead) =>
    let lo := max range.1 least
    let hi := min range.2 greatest
    if lo ≤ hi then
      (digitPaths places lo hi).map fun path =>
        match path with
        | [] => []
        | (a, b) :: rest => (a + lead, b + lead) :: rest.map fun (c, d) => (c + 0x80, d + 0x80)
    else []

end Stencil.Text
