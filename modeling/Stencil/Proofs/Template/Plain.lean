import Mathlib.Data.List.Basic
import Stencil.Template.Compile

/-!
# Template — templates without operators

A template without an opening brace is markup as it stands: it is cut into its characters
(`Template.ofSource_of_plain`), and expanded to itself (`Template.expand_of_plain`). A brace that
starts no operator changes nothing in this: tokens that are characters stand for what is written
(`Template.OperatorFree.markup`).
-/

namespace Stencil.Template

open Markup

/-- A template without an opening brace is cut into its characters. -/
theorem ofSource_of_plain (s : List Char) (plain : '\x7b' ∉ s) :
    Tokens.ofSource s = ⟨s.map .char, none⟩ := by
  induction s with
  | nil => rw [Tokens.ofSource, List.map_nil]
  | cons c rest ih =>
    have other : c ≠ '\x7b' := fun same => plain (same ▸ List.mem_cons_self)
    have first : next? c rest = .ok (.char c, rest) := if_pos other
    have later := ih fun mem => plain (List.mem_cons_of_mem c mem)
    rw [Tokens.ofSource]
    split
    · next t after found =>
      rw [first] at found
      cases found
      rw [later]
      rfl
    · next fault found =>
      rw [first] at found
      cases found

/-- A row of tokens all of which are characters. -/
def OperatorFree (ts : List Token) : Prop := ∀ t ∈ ts, ∃ c, t = .char c

theorem operatorFree_of_plain {s : List Char} (plain : '\x7b' ∉ s) :
    OperatorFree (Tokens.ofSource s).tokens := by
  intro t mem
  rw [ofSource_of_plain s plain] at mem
  obtain ⟨c, -, rfl⟩ := List.mem_map.mp mem
  exact ⟨c, rfl⟩

theorem OperatorFree.subset {ts us : List Token} (h : OperatorFree ts) (sub : us ⊆ ts) :
    OperatorFree us := fun t mem => h t (sub mem)

/-- Without operators, tokens stand for what is written. -/
theorem OperatorFree.markup {ts : List Token} (h : OperatorFree ts) :
    ts.flatMap Token.markup = ts.flatMap Token.lexeme :=
  List.flatMap_congr fun t mem => by
    obtain ⟨c, rfl⟩ := h t mem
    rfl

/-- Characters leave the open operators as they are. -/
theorem run_chars (s : List Char) (nesting : Nesting) (offset : Nat) :
    ∃ behind, Nesting.run offset nesting (s.map .char) = .ok (nesting, behind) := by
  induction s generalizing offset with
  | nil => exact ⟨offset, rfl⟩
  | cons c rest ih =>
    obtain ⟨behind, run⟩ := ih (offset + byteLength (Token.char c).lexeme)
    exact ⟨behind, run⟩

theorem flatMap_markup_chars (s : List Char) : (s.map Token.char).flatMap Token.markup = s := by
  induction s with
  | nil => rfl
  | cons c rest ih => rw [List.map_cons, List.flatMap_cons, ih, Token.markup, List.singleton_append]

/-- **A template without an opening brace is markup as it stands.** -/
theorem expand_of_plain {source : String} (plain : '\x7b' ∉ source.toList) :
    expand source = .ok source := by
  obtain ⟨behind, run⟩ := run_chars source.toList [] 0
  have expanded : (Tokens.ofSource source.toList).expand = .ok source.toList := by
    rw [ofSource_of_plain source.toList plain, Tokens.expand, run]
    exact congrArg Except.ok (flatMap_markup_chars source.toList)
  rw [expand, expanded]
  exact congrArg Except.ok (String.ofList_toList)

end Stencil.Template
