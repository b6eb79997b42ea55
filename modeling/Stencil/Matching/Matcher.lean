import Stencil.Matching.Attempt
import Stencil.Template.Pattern

/-!
# Matching — Matcher

What each kind of pattern node does, put together from what its child and the rest of its chain do.
A chain is matched by one matcher, which `Pattern.matcher` makes of the matchers of its parts; so a
part of a pattern never sees more of the pattern than what is below it and what comes after it.
-/

namespace Stencil

namespace Matcher

/-! ### Ends and leaves -/

/-- The end of a chain: valid behind the last sibling, else the siblings are left over. -/
def ending : Matcher
  | [], scope => .quiet (.valid none) scope
  | s :: rest, scope => ⟨.leftover s rest, scope, [.ranOut s]⟩

/-- Valid wherever it is met. -/
def anywhere : Matcher := fun _ scope => .quiet (.valid none) scope

/-- A text with exactly this content. -/
def literal (content : String) : Matcher
  | .text _ s :: _, scope => .quiet (if s = content then .valid (some s) else .invalid) scope
  | _, scope => .quiet .invalid scope

/-- The texts at the start of a row of siblings, joined, with each `br` as a line end. -/
def textRun : Position → String
  | .text _ s :: rest => s ++ textRun rest
  | .element _ name _ :: rest => if name = "br" then "\n" ++ textRun rest else ""
  | [] => ""

/-- Whether a row of siblings is empty or starts with a text or a `br`. -/
def startsWithText : Position → Bool
  | [] | .text _ _ :: _ => true
  | .element _ name _ :: _ => name == "br"

/-- A run of texts and line breaks in which an expression matches. Behind the last sibling the run
is empty. -/
def search (regex : Regex) : Matcher := fun pos scope =>
  if startsWithText pos && regex.isMatch (textRun pos) then
    .quiet (.valid (some (textRun pos))) scope
  else .quiet .invalid scope

/-! ### Elements, scopes and captures -/

/-- An element of this name whose children match, and then the siblings after it. What the siblings
bind is put into the scope that the children return. -/
def element (tag : String) (child next : Matcher) : Matcher
  | .element _ name children :: rest, scope =>
    if name = tag then
      let inner := child children scope
      if inner.verdict.isValid then
        let rest := next rest inner.scope
        ⟨rest.verdict, inner.scope.mergeInnermost rest.scope, inner.trace ++ rest.trace⟩
      else inner
    else .quiet .invalid scope
  | _, scope => .quiet .invalid scope

/-- The child in a new frame. -/
def framed (child : Matcher) : Matcher := fun pos scope => child pos scope.push

/-- The child, with its text bound to a name if it is valid. -/
def capture (name : String) (child : Matcher) : Matcher := fun pos scope =>
  let inner := child pos scope
  match inner.verdict with
  | .valid text =>
    let value := text.getD ""
    let bound := inner.scope.assign name value
    ⟨inner.verdict, bound, inner.trace ++ [.captured name value bound]⟩
  | _ => inner

/-! ### Wildcards -/

/-- A wildcard behind the last sibling: valid if the rest of the chain is, and else rejected. -/
def atEnd (next : Matcher) (scope : Scope) : Attempt :=
  let last := next [] scope
  if last.verdict.isValid then { last with verdict := .valid none }
  else ⟨.invalid, scope, last.trace⟩

/-- The rest of the chain at the first sibling that it does not reject. -/
def wildcard (next : Matcher) : Matcher
  | [], scope => atEnd next scope
  | s :: rest, scope =>
    let here := next (s :: rest) scope
    if here.verdict.isInvalid then (wildcard next rest scope).after here.trace else here

/-- The end of the siblings, with no sibling before it that the forbidden pattern does not
reject. -/
def avoiding (forbidden : Matcher) : Matcher
  | [], scope => atEnd ending scope
  | s :: rest, scope =>
    let probe := forbidden (s :: rest) scope
    if probe.verdict.isInvalid then (avoiding forbidden rest scope).after probe.trace
    else ⟨.invalid, scope, probe.trace⟩

/-- The rest of the chain at the first sibling where it is valid, with no sibling before it that
the forbidden pattern does not reject. -/
def avoidingUntil (forbidden next : Matcher) : Matcher
  | [], scope => atEnd next scope
  | s :: rest, scope =>
    let here := next (s :: rest) scope
    if here.verdict.isValid then here
    else
      let probe := forbidden (s :: rest) scope
      if probe.verdict.isInvalid then
        (avoidingUntil forbidden next rest scope).after (here.trace ++ probe.trace)
      else ⟨.invalid, scope, here.trace ++ probe.trace⟩

/-! ### Repetition -/

/-- Where a repetition comes to: whether a round matched, how the last round ended, and the position
at which it started. -/
structure Rounds where
  matched : Bool
  ended : Bool
  tail : Position
  trace : List Happening

/-- Rounds of the child, each from where the round before it ran out, in a frame of its own that is
thrown away. A round that leaves as many nodes as it was given is the last one. -/
def rounds (child : Matcher) (matched : Bool) (pos : Position) (scope : Scope) : Rounds :=
  let round := child pos scope.push
  match round.verdict with
  | .leftover s rest =>
    if Site.sizes (s :: rest) < Site.sizes pos then
      let later := rounds child true (s :: rest) scope
      { later with trace := round.trace ++ later.trace }
    else ⟨true, false, pos, round.trace⟩
  | .valid _ => ⟨true, true, pos, round.trace⟩
  | .invalid => ⟨matched, false, pos, round.trace⟩
termination_by Site.sizes pos

/-- The child once or more, and then the rest of the chain, in the scope from before: behind the
last sibling if the last round came to it, else where the last round started. -/
def many (child next : Matcher) : Matcher := fun pos scope =>
  let all := rounds child false pos scope
  if all.matched then (next (if all.ended then [] else all.tail) scope).after all.trace
  else ⟨.invalid, scope, all.trace⟩

/-! ### Alternatives -/

/-- The first branch that is valid at a sibling, and then the rest of the chain after this one
sibling. Nodes that the last branch leaves over are handed on to the rest of the chain. -/
def firstOf (next : Matcher) (s : Site) (rest : List Site) (scope : Scope) :
    List Matcher → Attempt
  | [] => .quiet .invalid scope
  | branch :: branches =>
    let here := branch (s :: rest) scope
    match here.verdict, branches with
    | .valid _, _ => (next rest here.scope).after here.trace
    | .leftover t after, [] => (next (t :: after) here.scope).after here.trace
    | _, [] => ⟨.invalid, scope, here.trace⟩
    | _, b :: branches => (firstOf next s rest scope (b :: branches)).after here.trace

/-- The first matching branch, at a sibling; there must be one. -/
def either (branches : List Matcher) (next : Matcher) : Matcher
  | [], scope => .quiet .invalid scope
  | s :: rest, scope => firstOf next s rest scope branches

end Matcher

namespace Pattern

mutual

/-- The matcher of a chain. -/
def matcher : Pattern → Matcher
  | nil => .ending
  | node kind child next =>
    match kind with
    | .element tag => .element tag child.matcher next.matcher
    | .literal content => .literal content
    | .search regex => .search regex
    | .wildcard =>
      match next with
      | nil => .anywhere
      | node kind' child' next' => .wildcard (node kind' child' next').matcher
    | .wildcardExcept =>
      match child, next with
      | nil, nil => .anywhere
      | nil, node kind' child' next' => (node kind' child' next').matcher
      | child, nil => .avoiding child.matcher
      | child, next => .avoidingUntil child.matcher next.matcher
    | .many => .many child.matcher next.matcher
    | .scope => .framed child.matcher
    | .capture name => .capture name child.matcher
    | .either => .either (child.matcher :: child.laterBranches) next.matcher
    | .option => .anywhere

/-- The matchers of the branches of a chain after the first one. A branch starts behind an end of a
branch and goes on to the end of the chain. -/
def laterBranches : Pattern → List Matcher
  | nil => []
  | node kind _ next =>
    match kind with
    | .option => next.matcher :: next.laterBranches
    | _ => next.laterBranches

end

end Pattern

end Stencil
