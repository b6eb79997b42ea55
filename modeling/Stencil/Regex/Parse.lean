import Stencil.Regex.Extent

/-!
# Regex — Parsing

The expressions that texts write. Flags hold from where they are set to the end of their group. An
expression is refused if it is malformed, if it is nested deeper than `maxNest`, if its automaton
takes more room than there is, or if it could match a part of a character, as byte-wise sets with
bytes above ASCII do.
-/

namespace Stencil.Regex

open Text

/-- The flags that hold at a place of an expression. -/
structure Flags where
  ignoreCase : Bool
  multiLine : Bool
  dotNewline : Bool
  crlf : Bool
  unicode : Bool
  ignoreSpace : Bool
  swapGreed : Bool

/-- The flags at the start of an expression. -/
def Flags.initial : Flags := ⟨false, false, false, false, true, false, false⟩

/-- An expression read so far, and how deep it is nested as it is written. -/
structure Parsed where
  expr : Expr
  nest : Nat

/-- What is left to read, the flags that hold, the group names seen, and the number of groups. -/
structure ParseState where
  rest : List Char
  flags : Flags
  names : List (List Char)
  groups : Nat

/-- Readers of parts of an expression, which may refuse it. -/
abbrev Parser := StateT ParseState Option

/-- The deepest nesting of an expression. -/
def maxNest : Nat := 250

namespace Parser

/-! ### Characters -/

/-- The next character. -/
def peek? : Parser (Option Char) := return (← get).rest.head?

/-- The next character, which must be there. -/
def peek : Parser Char := do
  let some c ← peek? | failure
  return c

/-- The flags that hold. -/
def flags : Parser Flags := return (← get).flags

/-- What is left to read is replaced. -/
def setRest (rest : List Char) : Parser Unit := modify fun s => { s with rest }

/-- The next character is passed over. -/
def bump : Parser Unit := modify fun s => { s with rest := s.rest.drop 1 }

mutual

/-- A text without the white space and the comments at its start. -/
def dropSpace : List Char → List Char
  | [] => []
  | c :: rest =>
    if isWhite c then dropSpace rest else if c == '#' then dropComment rest else c :: rest

/-- A text without the rest of a comment and the white space and comments after it. -/
def dropComment : List Char → List Char
  | [] => []
  | c :: rest => if c == '\n' then dropSpace rest else dropComment rest

end

/-- White space and comments are passed over where they are ignored. -/
def skipSpace : Parser Unit :=
  modify fun s => if s.flags.ignoreSpace then { s with rest := dropSpace s.rest } else s

/-- The next character is passed over, and ignored space after it. -/
def bumpSpace : Parser Unit := do bump; skipSpace

/-- A text that stands next is passed over, if it does. -/
def accept (text : String) : Parser Bool := do
  match text.toList.isPrefixOf? (← get).rest with
  | some rest => setRest rest; return true
  | none => return false

/-- The character after the next one, ignored space passed over. -/
def peekAfter? : Parser (Option Char) := do
  let s ← get
  let rest := s.rest.drop 1
  if !s.flags.ignoreSpace then return rest.head?
  match rest.dropWhile isWhite with
  | '#' :: comment => return (comment.dropWhile isWhite).head?
  | rest => return rest.head?

/-- A step is taken with a state of its own until it gives a result. The number bounds the steps. -/
def iterate {σ α : Type} (step : σ → Parser (σ ⊕ α)) : Nat → σ → Parser α
  | 0, _ => failure
  | n + 1, s => do
    match ← step s with
    | .inl s => iterate step n s
    | .inr a => return a

/-- A bound on the steps of a reader that reads something with each of them. -/
def bound : Parser Nat := return (← get).rest.length + 2

/-! ### Numbers -/

/-- A decimal number of 32 bits, with white space around it. -/
def decimal : Parser Nat := do
  modify fun s => { s with rest := s.rest.dropWhile isWhite }
  let step (digits : List Char) : Parser (List Char ⊕ List Char) := do
    match ← peek? with
    | some c => if c.isDigit then bumpSpace; return .inl (c :: digits) else return .inr digits
    | none => return .inr digits
  let digits ← iterate step (← bound) []
  modify fun s => { s with rest := s.rest.dropWhile isWhite }
  let some n := numeral? 10 digits.reverse | failure
  if n < 0x100000000 then return n else failure

/-- The character of a code point. -/
def scalar (digits : List Char) : Parser Char := do
  let some n := numeral? 16 digits | failure
  if n.isValidChar then return Char.ofNat n else failure

/-- Hexadecimal digits in braces, after the opening one. -/
def bracedHex : Parser Char := do
  bumpSpace
  let step (digits : List Char) : Parser (List Char ⊕ List Char) := do
    let c ← peek
    bumpSpace
    if c == '\x7d' then return .inr digits
    else if (digitValue? c).isSome then return .inl (c :: digits)
    else failure
  scalar (← iterate step (← bound) []).reverse

/-- A number of hexadecimal digits. -/
def fixedHex : Nat → List Char → Parser Char
  | 0, digits => scalar digits.reverse
  | n + 1, digits => do
    let c ← peek
    if (digitValue? c).isSome then bumpSpace; fixedHex n (c :: digits) else failure

/-! ### Escapes -/

/-- What an escape or a single character stands for: a character, which may be written as a byte, a
set of characters, or a condition on neighbours. -/
inductive Primitive where
  | literal (c : Char) (asByte : Bool)
  | set (s : CharSet)
  | look (l : Look)

/-- Characters that mean something in expressions and are escaped to stand for themselves. -/
def isMeta (c : Char) : Bool := "\\.+*?()|[]\x7b\x7d^$#&-~".toList.contains c

/-- Whether a character may be escaped to stand for itself. -/
def isEscapable (c : Char) : Bool :=
  isMeta c || (c.toNat < 0x80 && !c.isAlphanum && c != '<' && c != '>')

/-- The sets with a one-letter escape. A capital stands for the complement. -/
def classEscape (c : Char) : Parser Primitive := do
  let unicode := (← flags).unicode
  let set := match c.toLower with
    | 'd' => if unicode then CharSet.digit else CharSet.asciiDigit
    | 's' => if unicode then CharSet.white else CharSet.asciiWhite
    | _ => if unicode then CharSet.word else CharSet.asciiWord
  if c.isUpper then
    if unicode then return .set set.compl else failure
  else return .set set

/-- A set closed under case if case is ignored. -/
def closed (s : CharSet) : Parser CharSet := do
  let f ← flags
  return if f.ignoreCase then foldCase (if f.unicode then foldPairs else asciiFoldPairs) s else s

/-- A property escape, at its letter. A capital stands for the complement. Case is ignored before
the complement is taken. -/
def propertyEscape (negated : Bool) : Parser Primitive := do
  bumpSpace
  let c ← peek
  let step (text : List Char) : Parser (List Char ⊕ List Char) := do
    let c ← peek
    if c == '\x7d' then bump; return .inr text else bumpSpace; return .inl (c :: text)
  let set? ←
    if c == '\x7b' then do
      bumpSpace
      let text ← iterate step (← bound) []
      pure (inBraces? text.reverse)
    else if c == '\\' then failure
    else do
      bumpSpace
      pure ((named? [c]).map (·, false))
  let some (set, complement) := set? | failure
  if !(← flags).unicode then failure
  let set ← closed set
  return .set (if negated != complement then set.compl else set)

/-- The edges of words that have a name in braces. -/
def edge? : String → Option WordEdge
  | "start" => some .start
  | "end" => some .stop
  | "start-half" => some .startHalf
  | "end-half" => some .stopHalf
  | _ => none

/-- What follows the letter of a word boundary: a kind of boundary in braces, if it starts with a
letter or a hyphen. -/
def wordBoundary : Parser Primitive := do
  let unicode := (← flags).unicode
  let plain : Primitive := .look (.word .boundary unicode)
  let isNameChar (c : Char) : Bool := c.isAlpha || c == '-'
  let start := (← get).rest
  if start.head? != some '\x7b' then return plain
  bumpSpace
  let c ← peek
  if !isNameChar c then
    setRest start
    return plain
  let step (text : List Char) : Parser (List Char ⊕ List Char) := do
    let c ← peek
    if isNameChar c then bumpSpace; return .inl (c :: text)
    else if c == '\x7d' then bump; return .inr text
    else failure
  let text ← iterate step (← bound) []
  let some edge := edge? (String.ofList text.reverse) | failure
  return .look (.word edge unicode)

/-- An escape, at its backslash. -/
def escape : Parser Primitive := do
  bump
  let unicode := (← flags).unicode
  let c ← peek
  if c.isDigit then failure
  else if c == 'x' || c == 'u' || c == 'U' then do
    bumpSpace
    if (← peek) == '\x7b' then return .literal (← bracedHex) false
    else
      let digits := if c == 'x' then 2 else if c == 'u' then 4 else 8
      return .literal (← fixedHex digits []) (c == 'x')
  else if c == 'p' || c == 'P' then propertyEscape (c == 'P')
  else if "dswDSW".toList.contains c then do
    bump
    classEscape c
  else do
    bump
    if isEscapable c then return .literal c false
    else match c with
      | 'a' => return .literal '\x07' false
      | 'f' => return .literal '\x0c' false
      | 't' => return .literal '\t' false
      | 'n' => return .literal '\n' false
      | 'r' => return .literal '\r' false
      | 'v' => return .literal '\x0b' false
      | 'A' => return .look .textStart
      | 'z' => return .look .textEnd
      | 'b' => wordBoundary
      | 'B' => return .look (.word .inside unicode)
      | '<' => return .look (.word .start unicode)
      | '>' => return .look (.word .stop unicode)
      | _ => failure

/-- A character written as itself. A byte above ASCII is no character. -/
def literalChar (c : Char) (asByte : Bool) : Parser Char := do
  if asByte && !(← flags).unicode && 0x80 ≤ c.toNat then failure else return c

/-! ### Sets in brackets -/

/-- A set in brackets read so far, how deep it is nested, and how many items it has. -/
structure Items where
  set : CharSet
  nest : Nat
  count : Nat

/-- No items. -/
def Items.none : Items := ⟨.empty, 0, 0⟩

/-- The items with one more. -/
def Items.add (items : Items) (set : CharSet) (nest : Nat) : Items :=
  ⟨items.set.union set, max items.nest nest, items.count + 1⟩

/-- How deep a row of items is nested: two or more make a level. -/
def Items.depth (items : Items) : Nat := if 2 ≤ items.count then items.nest + 1 else items.nest

/-- The operators between sets. -/
inductive SetOp where
  | inter
  | diff
  | symmDiff

/-- The set that an operator makes of two. -/
def SetOp.apply : SetOp → CharSet → CharSet → CharSet
  | inter => CodeRanges.inter
  | diff => CodeRanges.diff
  | symmDiff => CodeRanges.symmDiff

/-- What stands in brackets so far: an operator with what is on its left, and the items after. -/
structure Bracket where
  left : Option (SetOp × CharSet × Nat)
  items : Items

/-- The set of a bracket with its operator applied, and its nesting. -/
def Bracket.close (b : Bracket) : Parser (CharSet × Nat) := do
  match b.left with
  | none => return (b.items.set, b.items.depth)
  | some (op, left, nest) =>
    return (op.apply (← closed left) (← closed b.items.set), max nest b.items.depth + 1)

/-- A character in brackets: outside Unicode mode it is an ASCII one. -/
def bracketChar (c : Char) (asByte : Bool) : Parser Char := do
  let c ← literalChar c asByte
  if (← flags).unicode || c.toNat < 0x80 then return c else failure

/-- A single item in brackets. -/
def bracketItem : Parser Primitive := do
  let c ← peek
  if c == '\\' then escape
  else do
    bump
    return .literal c false

/-- The set of an item in brackets. -/
def itemSet : Primitive → Parser CharSet
  | .literal c asByte => return .single (← bracketChar c asByte)
  | .set s => return s
  | .look _ => failure

/-- An item in brackets, or a range of characters. -/
def bracketRange : Parser CharSet := do
  let first ← bracketItem
  skipSpace
  let c ← peek
  let after ← peekAfter?
  if c != '-' || after == some ']' || after == some '-' then itemSet first
  else do
    bumpSpace
    let _ ← peek
    let last ← bracketItem
    match first, last with
    | .literal lo loByte, .literal hi hiByte =>
      let lo ← bracketChar lo loByte
      let hi ← bracketChar hi hiByte
      if lo ≤ hi then return .range lo hi else failure
    | _, _ => failure

/-- A named set of ASCII characters in its own brackets and colons, if one stands next. -/
def namedClass? : Parser (Option CharSet) := do
  let start := (← get).rest
  match start with
  | '[' :: ':' :: rest =>
    let (negated, rest) := match rest with
      | '^' :: rest => (true, rest)
      | rest => (false, rest)
    match rest.span (· != ':') with
    | (name, ':' :: ']' :: after) =>
      match CharSet.asciiNamed? (String.ofList name) with
      | some set =>
        setRest after
        let set ← closed set
        if !negated then return some set
        else if (← flags).unicode then return some set.compl
        else failure
      | none => return none
    | _ => return none
  | _ => return none

/-- The hyphens, and the closing bracket, that stand for themselves at the start of a bracket. -/
def leadingItems : Parser Items := do
  let step (items : Items) : Parser (Items ⊕ Items) := do
    if (← peek) == '-' then
      bumpSpace
      return .inl (items.add (.single '-') 0)
    else return .inr items
  let items ← iterate step (← bound) .none
  if items.count == 0 && (← peek) == ']' then
    bumpSpace
    let _ ← peek
    return items.add (.single ']') 0
  else return items

/-- A set in brackets, at its opening one, and how deep it is nested. The number bounds the
nesting. -/
def bracket : Nat → Parser (CharSet × Nat)
  | 0 => failure
  | n + 1 => do
    bumpSpace
    let negated := (← peek) == '^'
    if negated then
      bumpSpace
    let _ ← peek
    let items ← leadingItems
    let step (b : Bracket) : Parser (Bracket ⊕ (CharSet × Nat)) := do
      skipSpace
      let c ← peek
      let operator (op : SetOp) : Parser (Bracket ⊕ (CharSet × Nat)) := do
        bump
        bump
        let (set, nest) ← b.close
        return .inl ⟨some (op, set, nest), .none⟩
      let doubled := (← get).rest.drop 1 |>.head? |>.any (· == c)
      if c == '[' then
        match ← namedClass? with
        | some set => return .inl { b with items := b.items.add set 0 }
        | none =>
          let (set, nest) ← bracket n
          return .inl { b with items := b.items.add set (nest + 1) }
      else if c == ']' then
        bump
        return .inr (← b.close)
      else if c == '&' && doubled then operator .inter
      else if c == '-' && doubled then operator .diff
      else if c == '~' && doubled then operator .symmDiff
      else return .inl { b with items := b.items.add (← bracketRange) 0 }
    let (set, nest) ← iterate step (← bound) ⟨none, items⟩
    let set ← closed set
    if !negated then return (set, nest)
    else if (← flags).unicode then return (set.compl, nest)
    else failure

/-! ### Groups and repetitions -/

/-- An item of a concatenation: an expression, or a setting of flags. -/
inductive Item where
  | expr (p : Parsed)
  | setFlags

/-- An open group: what its concatenation and its alternatives hold so far, the latest first, the
flags to go back to when it closes, and its number if it is counted. -/
structure Group where
  items : List Item
  alternatives : List Parsed
  outerFlags : Flags
  index? : Option Nat

/-- The expression of an item. -/
def Item.parsed : Item → Parsed
  | .expr p => p
  | .setFlags => ⟨.empty, 0⟩

/-- Expressions joined into one, which is a level deeper if there are two or more. -/
def joined (join : List Expr → Expr) (ps : List Parsed) : Parsed :=
  let nest := ps.foldl (fun n p => max n p.nest) 0
  ⟨join (ps.map (·.expr)), if 2 ≤ ps.length then nest + 1 else nest⟩

/-- The latest branch of a group. -/
def Group.branch (g : Group) : Parsed := joined .sequence (g.items.reverse.map Item.parsed)

/-- The expression of a group's content. -/
def Group.content (g : Group) : Parsed :=
  if g.alternatives.isEmpty then g.branch
  else joined .choice (g.branch :: g.alternatives).reverse

/-- The expression of a group, which is a level deeper than its content. -/
def Group.parsed (g : Group) : Parsed :=
  let content := g.content
  ⟨(g.index?.map (Expr.group · content.expr)).getD content.expr, content.nest + 1⟩

/-- The flag settings of a row of flag letters. After a hyphen flags are unset. -/
def readFlags : Parser (Flags × Bool) := do
  let step (s : List Char × Bool × Flags) :
      Parser ((List Char × Bool × Flags) ⊕ (Flags × Bool)) := do
    let (seen, negated, f) := s
    let c ← peek
    if c == ':' || c == ')' then
      if seen.head? == some '-' then failure else return .inr (f, !seen.isEmpty)
    else if seen.contains c then failure
    else
      bump
      let on := !negated
      match c with
      | '-' => return .inl (c :: seen, true, f)
      | 'i' => return .inl (c :: seen, negated, { f with ignoreCase := on })
      | 'm' => return .inl (c :: seen, negated, { f with multiLine := on })
      | 's' => return .inl (c :: seen, negated, { f with dotNewline := on })
      | 'U' => return .inl (c :: seen, negated, { f with swapGreed := on })
      | 'u' => return .inl (c :: seen, negated, { f with unicode := on })
      | 'R' => return .inl (c :: seen, negated, { f with crlf := on })
      | 'x' => return .inl (c :: seen, negated, { f with ignoreSpace := on })
      | _ => failure
  iterate step (← bound) ([], false, ← flags)

/-- Whether a character may stand in a group name. -/
def isNameChar (first : Bool) (c : Char) : Bool :=
  c == '_' || if first then isAlphabetic c
    else c == '.' || c == '[' || c == ']' || isAlphanumeric c

/-- A group name and the angle bracket after it. -/
def groupName : Parser Unit := do
  let s ← get
  match s.rest.span (· != '>') with
  | (first :: more, '>' :: after) =>
    let name := first :: more
    if isNameChar true first && more.all (isNameChar false) && !s.names.contains name then
      set { s with rest := after, names := name :: s.names }
    else failure
  | _ => failure

/-- What stands at an opening parenthesis: a setting of flags, or the start of a group. -/
def openGroup (outer : Group × List Group) : Parser (Group × List Group) := do
  bumpSpace
  let before ← flags
  let entered (index? : Option Nat) : Group × List Group :=
    (⟨[], [], before, index?⟩, outer.1 :: outer.2)
  let counted : Parser (Group × List Group) := do
    let s ← get
    set { s with groups := s.groups + 1 }
    return entered (some (s.groups + 1))
  let rest := (← get).rest
  if ["?=", "?!", "?<=", "?<!"].any fun mark => mark.toList.isPrefixOf rest then failure
  if (← accept "?P<") || (← accept "?<") then
    groupName
    counted
  else if ← accept "?" then
    let (f, any) ← readFlags
    let c ← peek
    bump
    modify fun s => { s with flags := f }
    if c == ')' then
      if any then return ({ outer.1 with items := .setFlags :: outer.1.items }, outer.2)
      else failure
    else return entered none
  else counted

/-- The innermost group is closed. -/
def closeGroup (groups : Group × List Group) : Parser (Group × List Group) := do
  bump
  match groups with
  | (g, outer :: further) =>
    modify fun s => { s with flags := g.outerFlags }
    return ({ outer with items := .expr g.parsed :: outer.items }, further)
  | (_, []) => failure

/-- The latest item is repeated. After the mark of the repetition a question mark, or a flag, turns
it from greedy to lazy; both turn it back. -/
def repeatLast (g : Group) (least : Nat) (most : Option Nat) : Parser Group := do
  match g.items with
  | .expr p :: items =>
    let lazy := (← peek?) == some '?'
    if lazy then bump
    let greedy := lazy == (← flags).swapGreed
    return { g with items := .expr ⟨.repeating least most greedy p.expr, p.nest + 1⟩ :: items }
  | _ => failure

/-- A repetition with counts, at its opening brace. -/
def counted (g : Group) : Parser Group := do
  bumpSpace
  let least ← decimal
  let most ←
    if (← peek) == ',' then do
      bumpSpace
      if (← peek) == '\x7d' then pure none
      else do
        let most ← decimal
        if least ≤ most then pure (some most) else failure
    else pure (some least)
  if (← peek) != '\x7d' then failure
  bumpSpace
  repeatLast g least most

/-! ### Expressions -/

/-- The condition of a caret. -/
def lineStart (f : Flags) : Look := if f.multiLine then .lineStart f.crlf else .textStart

/-- The condition of a dollar sign. -/
def lineEnd (f : Flags) : Look := if f.multiLine then .lineEnd f.crlf else .textEnd

/-- The expression of a primitive. -/
def ofPrimitive : Primitive → Parser Parsed
  | .literal c asByte => do
    let c ← literalChar c asByte
    return ⟨.ofSet (← closed (.single c)), 0⟩
  | .set s => return ⟨.ofSet s, 0⟩
  | .look l => return ⟨.look l, 0⟩

/-- The characters of a dot: all but line ends, unless they are asked for. -/
def dot (f : Flags) : CharSet :=
  if f.dotNewline then .any
  else
    let ends : CharSet := if f.crlf then .ofText "a d" else .ofText "a"
    ends.compl

/-- A single character of an expression, or an escape. -/
def primitive : Parser Parsed := do
  let f ← flags
  let c ← peek
  match c with
  | '\\' => ofPrimitive (← escape)
  | '.' =>
    if !f.unicode then failure
    bump
    return ⟨.ofSet (dot f), 0⟩
  | '^' => bump; return ⟨.look (lineStart f), 0⟩
  | '$' => bump; return ⟨.look (lineEnd f), 0⟩
  | c => bump; ofPrimitive (.literal c false)

/-- One part of an expression is read into the open groups. -/
def part (groups : Group × List Group) : Parser ((Group × List Group) ⊕ Parsed) := do
  skipSpace
  let (g, outer) := groups
  let put (item : Parsed) : (Group × List Group) ⊕ Parsed :=
    .inl ({ g with items := .expr item :: g.items }, outer)
  match ← peek? with
  | none => if outer.isEmpty then return .inr g.content else failure
  | some '(' => return .inl (← openGroup groups)
  | some ')' => return .inl (← closeGroup groups)
  | some '|' =>
    bump
    return .inl ({ g with items := [], alternatives := g.branch :: g.alternatives }, outer)
  | some '[' =>
    let (set, nest) ← bracket (← bound)
    return put ⟨.ofSet set, nest + 1⟩
  | some '?' => bump; return .inl (← repeatLast g 0 (some 1), outer)
  | some '*' => bump; return .inl (← repeatLast g 0 none, outer)
  | some '+' => bump; return .inl (← repeatLast g 1 none, outer)
  | some '\x7b' => return .inl (← counted g, outer)
  | some _ => return put (← primitive)

/-- A whole expression. -/
def expression : Parser Parsed := do
  iterate part (← bound) (⟨[], [], .initial, none⟩, [])

end Parser

/-- The expression that a text writes. -/
def Expr.parse? (source : String) : Option Expr := do
  let (p, _) ← Parser.expression.run ⟨source.toList, .initial, [], 0⟩
  if p.nest ≤ maxNest ∧ p.expr.fits then some p.expr else none

end Stencil.Regex
