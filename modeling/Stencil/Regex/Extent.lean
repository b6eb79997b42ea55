import Std.Data.HashMap
import Stencil.Regex.Normal
import Stencil.Text.BytePath

/-!
# Regex — Extent

The room that an expression takes as an automaton over bytes, forward and backward, and the limit
set to it. An automaton is laid out state by state. Every state takes the same room, a way out on a
range of bytes takes more, and so does a way out without a byte.
-/

namespace Stencil.Regex

open Text

/-- An automaton as it is laid out: how many states it has, and how many bytes they take. -/
structure Extent where
  states : Nat
  bytes : Nat

namespace Extent

/-- The most bytes that an automaton may take. -/
def limit : Nat := 10485760

/-- With states that have one way out or none. -/
def plain (n : Nat) (e : Extent) : Extent := ⟨e.states + n, e.bytes + 32 * n⟩

/-- With a state that has ways out on a number of ranges of bytes. -/
def fan (ways : Nat) (e : Extent) : Extent := ⟨e.states + 1, e.bytes + 32 + 8 * ways⟩

/-- With ways out without a byte, from a state that is there. -/
def linked (ways : Nat) (e : Extent) : Extent := ⟨e.states, e.bytes + 4 * ways⟩

/-- With a state that has ways out without a byte. -/
def fork (ways : Nat) (e : Extent) : Extent := (e.plain 1).linked ways

/-- With a layout taken a number of times, at most until the limit is passed. -/
def copies (lay : Extent → Extent) : Nat → Extent → Extent
  | 0, e => e
  | n + 1, e => if limit < e.bytes then e else copies lay n (lay e)

end Extent

/-! ### Sets -/

/-- The states that can be used once more, by slots: a state is kept until another one takes its
slot. -/
abbrev Kept := Std.HashMap Nat (List Nat × Nat)

/-- The slot of a state with a description in numbers, of as many slots as there are. -/
def slot (slots : Nat) (key : List Nat) : Nat :=
  (key.foldl (fun h n => (h ^^^ n.toUInt64) * 1099511628211) (14695981039346656037 : UInt64)).toNat
    % slots

/-- Layouts of sets. -/
abbrev Layout := StateM (Kept × Extent)

/-- The state with a description: one that is kept, else one that is laid out and kept. -/
def state (slots : Nat) (key : List Nat) (lay : Extent → Extent) : Layout Nat := do
  let (kept, extent) ← get
  let place := slot slots key
  match kept[place]? with
  | some (known, id) =>
    if known = key then return id
  | none => pure ()
  set (kept.insert place (key, extent.states), lay extent)
  return extent.states

/-- The state that paths start from, where their common end is a state. Paths that begin with the
same bytes share a way out, and what is laid out for their rests comes first. The number bounds the
length of the paths. -/
def pathStart (target : Nat) : Nat → List BytePath → Layout Nat
  | 0, _ => return target
  | places + 1, paths => do
    let ways ← (paths.splitBy fun p q => p.head? == q.head?).mapM fun alike => do
      let (first, last) := ((alike.head?.bind (·.head?)).getD (0, 0))
      let rests := alike.map (·.drop 1)
      let next ← if rests = [[]] then pure target else pathStart target places rests
      return [first, last, next]
    state 10000 ways.flatten (·.fan ways.length)

/-- The states of a path that is read from its last byte: the one for the first byte leads to the
target, and is laid out before the others. -/
def pathBack (target : Nat) (path : BytePath) : Layout Unit := do
  let _ ← path.foldlM (fun next (first, last) => state 1000 [next, first, last] (·.plain 1)) target

/-- With the states of a set. A set of ASCII characters needs two; any other has its paths. -/
def Extent.withSet (backward : Bool) (s : CharSet) (e : Extent) : Extent :=
  let ranges := s.ranges.toList
  if ranges.all (·.2 < 0x80) then (e.plain 1).fan ranges.length
  else
    let paths := ranges.flatMap bytePaths
    if backward then
      let (_, _, laid) := (paths.forM (pathBack (e.states + 1))).run (∅, e.plain 2)
      laid.linked paths.length
    else ((pathStart e.states 4 paths).run (∅, e.plain 1)).2.2

/-! ### Choices between texts -/

/-- The bytes of a text. -/
def bytesOf (cs : List Char) : List Nat := (String.ofList cs).toUTF8.toList.map (·.toNat)

/-- With the states of a choice between texts that have begun alike, where one of them may have
ended. A text that ends among others cuts them in two, and what comes after it is told apart anew.
The number bounds the length of the texts. -/
def Extent.withTexts (e : Extent) : Nat → List (List Nat) → Extent
  | 0, _ => e
  | n + 1, texts =>
    if texts.all (·.isEmpty) then e
    else
      let cuts := texts.splitOnP (·.isEmpty)
      let ended := cuts.takeWhile (·.isEmpty)
      let pieces := ended.take 1 ++ cuts.drop ended.length
      let laid := pieces.foldl (fun e piece =>
        let firsts := (piece.filterMap (·.head?)).eraseDups
        let e := firsts.foldl (fun e first =>
          withTexts e n ((piece.filter (·.head? == some first)).map (·.drop 1))) e
        match firsts.length with
        | 0 => e
        | 1 => e.plain 1
        | ways => e.fan ways) e
      laid.fork ((pieces.filter (!·.isEmpty)).length + (pieces.length - 1))

/-! ### Expressions -/

/-- With what follows a branch of a choice, the first branch being number zero: after the second,
the choice itself and its end are laid out. -/
def Extent.afterBranch : Option Nat → Extent → Extent
  | none, e => e
  | some number, e => (if number = 1 then e.plain 2 else e).linked 1

namespace Expr

/-- With the states of an expression, which may be what is left of a choice after a number of its
branches. Backward the last part comes first, and there are no states for groups. -/
def lay (backward : Bool) : Option Nat → Expr → Extent → Extent
  | done, alt first second, e =>
    match (if done.isNone then (alt first second).branches.mapM text? else none) with
    | some texts =>
      let rows := texts.map fun cs => if backward then (bytesOf cs).reverse else bytesOf cs
      (e.plain 1).withTexts (rows.foldl (fun n r => max n r.length) 1) rows
    | none =>
      let number := done.getD 0
      second.lay backward (some (number + 1))
        ((first.lay backward none e).afterBranch (some number))
  | done, empty, e => (e.plain 1).afterBranch done
  | done, text cs, e => (e.plain (bytesOf cs).length).afterBranch done
  | done, set s, e => (e.withSet backward s).afterBranch done
  | done, look _, e => (e.plain 1).afterBranch done
  | done, group _ body, e =>
    let laid :=
      if backward then body.lay backward none e
      else (body.lay backward none (e.plain 1)).plain 1
    laid.afterBranch done
  | done, seq first second, e =>
    let laid :=
      if backward then first.lay backward none (second.lay backward none e)
      else second.lay backward none (first.lay backward none e)
    laid.afterBranch done
  | done, repeated least most _ body, e =>
    let once := body.lay backward none
    let laid :=
      match least, most with
      | 0, some 1 => (once (e.fork 2)).plain 1
      | 0, none =>
        if body.shortest?.any (0 < ·) then once (e.fork 2)
        else (((once e).fork 2).fork 2).plain 1
      | least, none => (Extent.copies once least e).fork 2
      | least, some most =>
        let start := if least = 0 then e.plain 1 else Extent.copies once least e
        if least = most then start
        else Extent.copies (fun e => once (e.fork 2)) (most - least) (start.plain 1)
    laid.afterBranch done

/-- The automaton of an expression. Before it, any bytes are passed over, unless every match is
bound to the end of the text that is read first. Forward the match is marked as a group is, and
after all there is a last state. -/
def extent (backward : Bool) (e : Expr) : Extent :=
  let blank : Extent := ⟨0, 0⟩
  let bound := if backward then e.toEnd else e.fromStart
  let start := if bound then blank.plain 1 else ((blank.fork 2).plain 1).fan 1
  let body :=
    if backward then e.lay backward none start
    else (e.lay backward none (start.plain 1)).plain 1
  body.plain 1

/-- Whether an expression is a choice between so many texts that they are searched for without an
automaton. -/
def isWordList (e : Expr) : Bool := 3000 ≤ e.branches.length && e.branches.all (·.text?.isSome)

/-- Whether the automata of an expression keep to the limit. -/
def fits (e : Expr) : Bool :=
  e.isWordList ||
    ((e.extent false).bytes ≤ Extent.limit && (e.extent true).bytes ≤ Extent.limit)

end Expr

end Stencil.Regex
