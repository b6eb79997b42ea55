import Stencil.Regex.Parse

/-!
# Regex — Regular expression

A text together with the expression that it writes. Two of them are the same if their texts are.
-/

namespace Stencil

/-- A regular expression: its source, and what the source writes. -/
structure Regex where
  source : String
  expr : Regex.Expr
  parsed : Regex.Expr.parse? source = some expr

namespace Regex

/-- The regular expression that a text writes, if it writes one. -/
def ofSource? (source : String) : Option Regex :=
  match h : Expr.parse? source with
  | some expr => some ⟨source, expr, h⟩
  | none => none

theorem ext_source {a b : Regex} (h : a.source = b.source) : a = b := by
  obtain ⟨s, e, p⟩ := a
  obtain ⟨t, f, q⟩ := b
  obtain rfl : s = t := h
  obtain rfl : e = f := Option.some.inj (p.symm.trans q)
  rfl

instance : DecidableEq Regex := fun a b =>
  if h : a.source = b.source then isTrue (ext_source h)
  else isFalse fun eq => h (congrArg source eq)

/-- Whether a regular expression matches somewhere in a text. -/
def isMatch (r : Regex) (text : String) : Bool := r.expr.matches? text.toList

end Regex

end Stencil
