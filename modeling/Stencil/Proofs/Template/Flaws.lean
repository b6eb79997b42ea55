import Mathlib
import Stencil.Proofs.Document.Shape
import Stencil.Proofs.Template.Operators

/-!
# Template — malformed nodes

A document is compiled if and only if it is not blank and none of its nodes is malformed; its
pattern then mirrors it, link by link. Else the first node that is malformed is reported, in the
order that goes over siblings from the last to the first and looks at a node before its children
(`Pattern.ofDocument_mirrors`).
-/

namespace Stencil

open Template

namespace Node

/-! ### Malformed nodes -/

/-- The reserved element that a node is, if it is one. -/
def marker? (n : Node) : Option Marker := n.name?.bind Marker.ofName?

/-- The reserved elements that have no content. -/
def hollow : List Marker := [.something, .or, .regex]

/-- A node that has all that it needs to stand for something. -/
structure WellFormed (n : Node) : Prop where
  empty : ∀ m ∈ hollow, n.marker? = some m → ∀ c ∈ n.children, c.isBlank
  expression : n.marker? = some .regex →
    ∃ e regex, n.attribute? "value" = some e ∧ Regex.ofSource? e = some regex
  name : n.marker? = some .capture → ∃ name, n.attribute? "name" = some name

/-- What is wrong with a node itself. Its content comes first, then what it lacks. -/
inductive Flaw (n : Node) : TemplateError → Prop
  | content {m : Marker} {c : Node} : m ∈ hollow → n.marker? = some m → c ∈ n.children →
      c.isBlank = false → Flaw n (.markerWithContent m)
  | noExpression : n.marker? = some .regex → (∀ c ∈ n.children, c.isBlank) →
      n.attribute? "value" = none → Flaw n (.missingAttribute .regex "value")
  | expression {e : String} : n.marker? = some .regex → (∀ c ∈ n.children, c.isBlank) →
      n.attribute? "value" = some e → Regex.ofSource? e = none → Flaw n (.invalidRegex e)
  | noName : n.marker? = some .capture → n.attribute? "name" = none →
      Flaw n (.missingAttribute .capture "name")

/-- The nodes of a row of trees that are not blank, in the order in which they are looked at:
siblings from the last to the first, and a node before its children. -/
def inspected : List Node → List Node
  | [] => []
  | .element d name attributes cs :: rest =>
    inspected rest ++ .element d name attributes cs :: inspected cs
  | .text d content :: rest =>
    inspected rest ++ if Text.isBlank content then [] else [.text d content]

/-- What is wrong with the first node of a row that is malformed. -/
inductive FirstFlaw (nodes : List Node) : TemplateError → Prop
  | mk {before after : List Node} {n : Node} {e : TemplateError} : nodes = before ++ n :: after →
      (∀ m ∈ before, m.WellFormed) → n.Flaw e → FirstFlaw nodes e

variable {n : Node} {rest nodes later : List Node} {e e' : TemplateError}

theorem Flaw.not_wellFormed (h : n.Flaw e) : ¬n.WellFormed := by
  intro sound
  cases h with
  | content mem is child visible => simp [sound.empty _ mem is _ child] at visible
  | noExpression is _ missing =>
    obtain ⟨_, _, given, -⟩ := sound.expression is
    cases missing.symm.trans given
  | expression is _ given invalid =>
    obtain ⟨_, _, given', valid⟩ := sound.expression is
    cases given.symm.trans given'
    cases invalid.symm.trans valid
  | noName is missing =>
    obtain ⟨_, given⟩ := sound.name is
    cases missing.symm.trans given

/-- A node is malformed in one way only. -/
theorem Flaw.unique (h : n.Flaw e) (h' : n.Flaw e') : e = e' := by
  cases h with
  | content _ is child visible =>
    cases h' with
    | content _ is' _ _ => cases is.symm.trans is'; rfl
    | noExpression _ blank _ | expression _ blank _ _ => simp [blank _ child] at visible
    | noName is' _ => cases is.symm.trans is'; contradiction
  | noExpression is blank missing =>
    cases h' with
    | content _ _ child visible => simp [blank _ child] at visible
    | noExpression _ _ _ => rfl
    | expression _ _ given _ => cases missing.symm.trans given
    | noName is' _ => cases is.symm.trans is'
  | expression is blank given invalid =>
    cases h' with
    | content _ _ child visible => simp [blank _ child] at visible
    | noExpression _ _ missing => cases given.symm.trans missing
    | expression _ _ given' _ => cases given.symm.trans given'; rfl
    | noName is' _ => cases is.symm.trans is'
  | noName is missing =>
    cases h' with
    | content mem is' _ _ => cases is.symm.trans is'; contradiction
    | noExpression is' _ _ | expression is' _ _ _ => cases is.symm.trans is'
    | noName _ _ => rfl

/-! ### Rows in the order in which they are looked at -/

theorem inspected_cons_of_blank (h : n.isBlank) : inspected (n :: rest) = inspected rest := by
  cases n with
  | element d name attributes cs => cases h
  | text d content =>
    have blank : Text.isBlank content := h
    rw [inspected, if_pos blank, List.append_nil]

theorem inspected_cons_of_visible (h : n.isBlank = false) :
    inspected (n :: rest) = inspected rest ++ n :: inspected n.children := by
  cases n with
  | element d name attributes cs => rw [inspected, children]
  | text d content =>
    rw [inspected, if_neg (by simpa [isBlank] using h), children, inspected]

theorem FirstFlaw.append (h : FirstFlaw nodes e) (later : List Node) :
    FirstFlaw (nodes ++ later) e := by
  obtain ⟨rfl, sound, flaw⟩ := h
  exact .mk (List.append_assoc ..) sound flaw

theorem FirstFlaw.behind (h : FirstFlaw later e) (sound : ∀ m ∈ nodes, m.WellFormed) :
    FirstFlaw (nodes ++ later) e := by
  obtain ⟨rfl, early, flaw⟩ := h
  refine .mk (List.append_assoc ..).symm (fun m mem => ?_) flaw
  exact (List.mem_append.mp mem).elim (sound m) (early m)

theorem FirstFlaw.not_forall (h : FirstFlaw nodes e) : ¬∀ m ∈ nodes, m.WellFormed := by
  obtain ⟨rfl, -, flaw⟩ := h
  exact fun sound => flaw.not_wellFormed (sound _ (List.mem_append_right _ List.mem_cons_self))

/-- A row of well formed nodes does not reach as far as a malformed one. -/
theorem Flaw.length_le {before after early late : List Node} (h : n.Flaw e)
    (sound : ∀ m ∈ early, m.WellFormed) (split : before ++ n :: after = early ++ late) :
    early.length ≤ before.length := by
  by_contra longer
  have here : (early ++ late)[before.length]? = some n := by
    rw [← split, List.getElem?_append_right le_rfl, Nat.sub_self]
    rfl
  rw [List.getElem?_append_left (by omega)] at here
  exact h.not_wellFormed (sound n (List.mem_of_getElem? here))

theorem FirstFlaw.unique (h : FirstFlaw nodes e) (h' : FirstFlaw nodes e') : e = e' := by
  obtain ⟨rfl, sound, flaw⟩ := h
  obtain ⟨split, sound', flaw'⟩ := h'
  have same := le_antisymm (flaw'.length_le sound split.symm) (flaw.length_le sound' split)
  obtain ⟨-, eq⟩ := List.append_inj split same
  cases eq
  exact flaw.unique flaw'

/-- A row is checked: if all its nodes are well formed there is a result, and else the first flaw is
reported. -/
inductive Checked {α : Type} (nodes : List Node) : Except TemplateError α → Prop
  | sound {a : α} : (∀ n ∈ nodes, n.WellFormed) → Checked nodes (.ok a)
  | refused {e : TemplateError} : FirstFlaw nodes e → Checked nodes (.error e)

variable {α β : Type} {x : Except TemplateError α}

/-- A row is checked part by part. -/
theorem Checked.bind {f : α → Except TemplateError β} (h : Checked nodes x)
    (go : ∀ a, Checked later (f a)) : Checked (nodes ++ later) (x >>= f) := by
  cases h with
  | @sound a early =>
    have behind := go a
    rw [ok_bind]
    generalize f a = y at behind
    cases behind with
    | sound late => exact .sound fun n mem => (List.mem_append.mp mem).elim (early n) (late n)
    | refused flaw => exact .refused (flaw.behind early)
  | refused flaw => exact .refused (flaw.append later)

theorem Checked.map {f : α → β} (h : Checked nodes x) : Checked nodes (x.map f) := by
  cases h with
  | sound all => exact .sound all
  | refused flaw => exact .refused flaw

theorem Checked.go {f : α → β} (h : Checked nodes x) :
    Checked nodes (x >>= fun a => .ok (f a)) := by
  have nothing : ∀ a, Checked [] (.ok (f a) : Except TemplateError β) :=
    fun _ => .sound (List.forall_mem_nil _)
  have checked := h.bind nothing
  rwa [List.append_nil] at checked

theorem Checked.cons {y : Except TemplateError α} (sound : n.WellFormed) (h : Checked nodes y) :
    Checked (n :: nodes) y :=
  Checked.bind (.sound (List.forall_mem_singleton.mpr sound) : Checked [n] (.ok ())) fun _ => h

theorem inspected_of_blank {row : List Node} (h : ∀ c ∈ row, c.isBlank) : inspected row = [] := by
  induction row with
  | nil => rw [inspected]
  | cons c rest ih =>
    rw [inspected_cons_of_blank (h c List.mem_cons_self),
      ih fun c mem => h c (List.mem_cons_of_mem _ mem)]

theorem wellFormed_of_plain (h : n.marker? = none) : n.WellFormed := by
  constructor
  · simp [h]
  · simp [h]
  · simp [h]

/-- A reserved element is well formed if it has what its own name asks for. -/
theorem wellFormed_of_marker {m : Marker} (is : n.marker? = some m)
    (empty : m ∈ hollow → ∀ c ∈ n.children, c.isBlank)
    (expression : m = .regex →
      ∃ e regex, n.attribute? "value" = some e ∧ Regex.ofSource? e = some regex)
    (name : m = .capture → ∃ name, n.attribute? "name" = some name) : n.WellFormed where
  empty _ mem is' := empty (Option.some.inj (is.symm.trans is') ▸ mem)
  expression is' := expression (Option.some.inj (is.symm.trans is'))
  name is' := name (Option.some.inj (is.symm.trans is'))

/-- What is wrong with a node is reported before anything below it. -/
theorem Flaw.refused {y : Except TemplateError α} (h : n.Flaw e) (reported : y = .error e) :
    Checked (n :: nodes) y :=
  reported ▸ .refused (.mk (List.nil_append _).symm (List.forall_mem_nil _) h)

end Node

namespace Pattern

open Node

variable {n : Node} {d : Nat} {name : String} {attributes : List Markup.Attribute}
  {children : List Node} {m : Marker}

/-! ### What is compiled -/

/-- A hollow element is looked into when it has no content. -/
theorem checked_leaf {given : Except TemplateError Kind} (is : n.marker? = some m)
    (mem : m ∈ hollow) (asks : (∀ c ∈ n.children, c.isBlank) → Checked [n] given) :
    Checked (n :: inspected n.children) (leaf m n.children given) := by
  rw [leaf]
  split
  · next blank =>
    have blank := List.all_eq_true.mp blank
    rw [inspected_of_blank blank]
    exact (asks blank).map
  · next visible =>
    obtain ⟨c, child, visible⟩ : ∃ c ∈ n.children, c.isBlank = false := by simpa using visible
    exact Flaw.refused (.content mem is child visible) rfl

/-- The expression of a regular expression is looked for, and then into. -/
theorem checked_expression (is : n.marker? = some .regex) (blank : ∀ c ∈ n.children, c.isBlank)
    (looked : ∀ key, n.attribute? key = attributes.lookup key) :
    Checked [n] (required .regex "value" attributes >>= searchFor) := by
  rw [required]
  cases given : attributes.lookup "value" with
  | none =>
    exact Flaw.refused (.noExpression is blank (by rw [looked, given])) rfl
  | some e =>
    dsimp only
    rw [ok_bind, searchFor]
    have value : n.attribute? "value" = some e := by rw [looked, given]
    cases valid : Regex.ofSource? e with
    | none => exact Flaw.refused (.expression is blank value valid) rfl
    | some regex =>
      refine .sound (List.forall_mem_singleton.mpr (wellFormed_of_marker is (fun _ => blank) ?_ ?_))
      · exact fun _ => ⟨e, regex, value, valid⟩
      · simp

/-- The name of a capture is looked for. -/
theorem checked_name (is : n.marker? = some .capture)
    (looked : ∀ key, n.attribute? key = attributes.lookup key) :
    Checked [n] (required .capture "name" attributes) := by
  rw [required]
  cases given : attributes.lookup "name" with
  | none => exact Flaw.refused (.noName is (by rw [looked, given])) rfl
  | some name =>
    refine .sound (List.forall_mem_singleton.mpr (wellFormed_of_marker is ?_ (by simp) fun _ => ?_))
    · exact fun mem => absurd mem (by decide)
    · exact ⟨name, by rw [looked, given]⟩

/-- A node is checked before its children. -/
theorem checked_ofNode (n : Node)
    (inner : Checked (inspected n.children) (ofNodes n.children)) :
    Checked (n :: inspected n.children) (ofNode n) := by
  cases n with
  | text d content =>
    rw [ofNode]
    refine .sound fun m mem => ?_
    rw [children, inspected, List.mem_singleton] at mem
    exact mem ▸ wellFormed_of_plain rfl
  | element d name attributes cs =>
    have looked : ∀ key, (Node.element d name attributes cs).attribute? key =
        attributes.lookup key := fun _ => rfl
    -- the children are compiled, and nothing is checked behind them
    have below (kind : Kind) :
        Checked (inspected cs) (do return (kind, ← ofNodes cs)) := inner.go
    rw [ofNode]
    cases is : Marker.ofName? name with
    | none => exact (below (.element name)).cons (wellFormed_of_plain is)
    | some m =>
      cases m with
      | something | or =>
        refine checked_leaf is (by decide) fun blank => .sound ?_
        exact List.forall_mem_singleton.mpr
          (wellFormed_of_marker is (fun _ => blank) (by simp) (by simp))
      | regex =>
        exact checked_leaf is (by decide) fun blank => checked_expression is blank looked
      | capture =>
        have named : Checked [.element d name attributes cs]
            (required .capture "name" attributes) := checked_name is looked
        exact named.bind fun captured => below (.capture captured)
      | but | many | scope | either =>
        refine (below _).cons (wellFormed_of_marker is ?_ (by simp) (by simp))
        exact fun mem => absurd mem (by decide)

/-- **A row is compiled if all its nodes are well formed, and else its first flaw is reported.** -/
theorem checked_ofNodes (row : List Node) : Checked (inspected row) (ofNodes row) := by
  induction row using row_induction with
  | nil =>
    rw [ofNodes]
    exact .sound (by rw [inspected]; exact List.forall_mem_nil _)
  | cons n rest ihc ih =>
    by_cases blank : n.isBlank
    · rw [inspected_cons_of_blank blank, ofNodes_cons_of_blank blank]
      exact ih
    · have visible : n.isBlank = false := by simpa using blank
      rw [inspected_cons_of_visible visible, ofNodes]
      refine ih.bind fun next => ?_
      rw [if_neg blank]
      exact (checked_ofNode n ihc).go (f := fun found : Kind × Pattern => node found.1 found.2 next)

end Pattern

/-! ### What is mirrored -/

/-- The operator that a reserved element is, where it needs no attribute. -/
def Template.Marker.operator? : Marker → Option Kind
  | .something => some .wildcard
  | .but => some .wildcardExcept
  | .many => some .many
  | .scope => some .scope
  | .either => some .either
  | .or => some .option
  | .capture | .regex => none

namespace Pattern

open Node

/-- What a node stands for in a template. -/
inductive StandsFor (n : Node) : Kind → Prop
  | literal {content : String} : n.text? = some content → StandsFor n (.literal content)
  | element {name : String} : n.name? = some name → n.marker? = none → StandsFor n (.element name)
  | operator {m : Marker} {kind : Kind} : n.marker? = some m → m.operator? = some kind →
      StandsFor n kind
  | search {e : String} {regex : Regex} : n.marker? = some .regex →
      n.attribute? "value" = some e → Regex.ofSource? e = some regex → StandsFor n (.search regex)
  | capture {name : String} : n.marker? = some .capture → n.attribute? "name" = some name →
      StandsFor n (.capture name)

/-- A chain mirrors the position of a node: its first node is what the node stands for, its child
mirrors the first child of the node that is not blank, and the rest of the chain the next sibling
that is not blank. -/
inductive Mirrors : Cursor → Pattern → Prop
  | nothing : Mirrors [] .nil
  | node {n : Node} {rest : List Node} {kind : Kind} {child next : Pattern} : StandsFor n kind →
      Mirrors (Cursor.child (n :: rest)) child → Mirrors (Cursor.next (n :: rest)) next →
      Mirrors (n :: rest) (.node kind child next)

variable {n : Node} {d : Nat} {name : String} {attributes : List Markup.Attribute}
  {children : List Node} {m : Marker} {kind kind' : Kind} {p q child : Pattern} {c : Cursor}

theorem marker?_of_text {content : String} (h : n.text? = some content) :
    n.marker? = none ∧ n.name? = none := by
  cases n with
  | element d name attributes cs => cases h
  | text d content => exact ⟨rfl, rfl⟩

theorem StandsFor.unique (h : StandsFor n kind) (h' : StandsFor n kind') : kind = kind' := by
  cases h with
  | literal text =>
    obtain ⟨plain, nameless⟩ := marker?_of_text text
    cases h' with
    | literal text' => cases text.symm.trans text'; rfl
    | element named _ => cases nameless.symm.trans named
    | operator is _ | search is _ _ | capture is _ => cases plain.symm.trans is
  | element named plain =>
    cases h' with
    | literal text => cases (marker?_of_text text).2.symm.trans named
    | element named' _ => cases named.symm.trans named'; rfl
    | operator is _ | search is _ _ | capture is _ => cases plain.symm.trans is
  | operator is stands =>
    cases h' with
    | literal text => cases (marker?_of_text text).1.symm.trans is
    | element _ plain => cases plain.symm.trans is
    | operator is' stands' =>
      cases is.symm.trans is'
      exact Option.some.inj (stands.symm.trans stands')
    | search is' _ _ | capture is' _ =>
      cases is.symm.trans is'
      cases stands
  | search is given valid =>
    cases h' with
    | literal text => cases (marker?_of_text text).1.symm.trans is
    | element _ plain => cases plain.symm.trans is
    | operator is' stands =>
      cases is.symm.trans is'
      cases stands
    | search _ given' valid' =>
      cases given.symm.trans given'
      cases valid.symm.trans valid'
      rfl
    | capture is' _ => cases is.symm.trans is'
  | capture is given =>
    cases h' with
    | literal text => cases (marker?_of_text text).1.symm.trans is
    | element _ plain => cases plain.symm.trans is
    | operator is' stands =>
      cases is.symm.trans is'
      cases stands
    | search is' _ _ => cases is.symm.trans is'
    | capture _ given' =>
      cases given.symm.trans given'
      rfl

/-- A position is mirrored by one chain. -/
theorem Mirrors.unique (h : Mirrors c p) : ∀ {q}, Mirrors c q → p = q := by
  induction h with
  | nothing =>
    intro q other
    cases other
    rfl
  | node stands _ _ ihc ihn =>
    intro q other
    cases other with
    | node stands' below behind => rw [stands.unique stands', ihc below, ihn behind]

theorem lookup_of_required {key value : String} (h : required m key attributes = .ok value) :
    attributes.lookup key = some value := by
  rw [required] at h
  split at h
  · next found =>
    cases h
    exact found
  · cases h

theorem standsFor_of_asked (is : Marker.ofName? name = some m)
    (given : asked m attributes = .ok kind) :
    StandsFor (.element d name attributes children) kind := by
  cases m with
  | something | but | many | scope | either | or =>
    cases given
    exact .operator is rfl
  | capture =>
    obtain ⟨captured, found, rfl⟩ := ok_of_map given
    exact .capture is (lookup_of_required found)
  | regex =>
    obtain ⟨e, found, read⟩ := ok_of_bind given
    obtain ⟨regex, valid, rfl⟩ := searchFor_eq_ok read
    exact .search is (lookup_of_required found) valid

/-- A compiled node is what the node stands for, with the chain of its children. -/
theorem standsFor_of_ofNode
    (compiled : ofNode n = .ok (kind, child)) :
    StandsFor n kind ∧ ofNodes n.children = .ok child := by
  cases n with
  | text d content =>
    rw [ofNode] at compiled
    cases compiled
    exact ⟨.literal rfl, by rw [Node.children, ofNodes]⟩
  | element d name attributes cs =>
    cases is : Marker.ofName? name with
    | none =>
      obtain ⟨rfl, inside⟩ := ofNode_element is compiled
      exact ⟨.element rfl is, inside⟩
    | some m =>
      obtain ⟨given, inside⟩ := ofNode_reserved is compiled
      exact ⟨standsFor_of_asked is given, inside⟩

/-- **A row is mirrored by the chain that it is compiled to**, from its first node on that is not
blank. -/
theorem mirrors_of_ofNodes (row : List Node) : ∀ {p : Pattern}, ofNodes row = .ok p →
    Mirrors (Cursor.skipBlank row) p := by
  induction row using row_induction with
  | nil =>
    intro p compiled
    rw [ofNodes] at compiled
    cases compiled
    exact .nothing
  | cons n rest ihc ih =>
    intro p compiled
    by_cases blank : n.isBlank
    · rw [ofNodes_cons_of_blank blank] at compiled
      rw [skipBlank_cons_of_blank blank]
      exact ih compiled
    · have visible : n.isBlank = false := by simpa using blank
      obtain ⟨kind, child, next, here, behind, rfl⟩ := ofNodes_cons_of_visible visible compiled
      obtain ⟨stands, inside⟩ := standsFor_of_ofNode here
      rw [skipBlank_cons_of_visible visible]
      exact .node stands (ihc inside) (ih behind)

theorem all_blank_of_root {d : Document} (h : Cursor.root d = []) : ∀ n ∈ d.top, n.isBlank :=
  fun n mem => by simpa using List.dropWhile_eq_nil_iff.mp h n mem

theorem mirrors_of_ofDocument {d : Document} (h : ofDocument d = .ok p) :
    Mirrors (Cursor.root d) p :=
  mirrors_of_ofNodes d.top (ofNodes_of_ofDocument h)

/-- A document without a root is refused; any other is compiled, or its first flaw is reported. -/
theorem ofDocument_cases (d : Document) :
    Cursor.root d = [] ∧ inspected d.top = [] ∧ ofDocument d = .error .emptyTemplate ∨
      Cursor.root d ≠ [] ∧
        ((∃ p, ofDocument d = .ok p) ∧ (∀ n ∈ inspected d.top, n.WellFormed) ∨
          ∃ e, ofDocument d = .error e ∧ FirstFlaw (inspected d.top) e) := by
  by_cases none : Cursor.root d = []
  · have blank := all_blank_of_root none
    refine .inl ⟨none, inspected_of_blank blank, ?_⟩
    rw [ofDocument, ofNodes_of_blank d.top (List.all_eq_true.mpr blank)]
    rfl
  · refine .inr ⟨none, ?_⟩
    have checked := checked_ofNodes d.top
    cases compiled : ofNodes d.top with
    | error e =>
      rw [compiled] at checked
      cases checked with
      | refused flaw => exact .inr ⟨e, by rw [ofDocument, compiled]; rfl, flaw⟩
    | ok p =>
      rw [compiled] at checked
      cases checked with
      | sound all =>
        refine .inl ⟨⟨p, ?_⟩, all⟩
        rw [ofDocument, compiled]
        cases p with
        | nil =>
          -- only the end of the siblings is mirrored by an empty chain
          have mirrors := mirrors_of_ofNodes d.top compiled
          cases root : Cursor.root d with
          | nil => exact absurd root none
          | cons n rest =>
            rw [← Cursor.root, root] at mirrors
            cases mirrors
        | node kind child next => rfl

/-- **A document is compiled to the pattern that mirrors it, or its first malformed node is
reported.** It is compiled if and only if it has a root that is not blank, and none of its nodes is
malformed; its pattern is then the one that mirrors the root, with the child of each node and the
sibling next to it. A node is malformed that is hollow but has content, that is to be a regular
expression but has no value that can be read as one, or that is to capture but has no name. Else
what is wrong with the first malformed node is reported, where later siblings come before earlier
ones and a node before its children; or that there is no root. -/
theorem ofDocument_mirrors (d : Document) :
    ((∃ p, ofDocument d = .ok p) ↔
        Cursor.root d ≠ [] ∧ ∀ n ∈ inspected d.top, n.WellFormed) ∧
      (∀ p, ofDocument d = .ok p ↔
        Cursor.root d ≠ [] ∧ (∀ n ∈ inspected d.top, n.WellFormed) ∧
          Mirrors (Cursor.root d) p) ∧
      ∀ e, ofDocument d = .error e ↔
        FirstFlaw (inspected d.top) e ∨ Cursor.root d = [] ∧ e = .emptyTemplate := by
  rcases ofDocument_cases d with ⟨none, nothing, refused⟩ | ⟨some, ⟨⟨p, compiled⟩, sound⟩ |
      ⟨e, refused, flaw⟩⟩
  · refine ⟨?_, fun p => ?_, fun e => ?_⟩
    · simp [none, refused]
    · simp [none, refused]
    · have noFlaw : ¬FirstFlaw (inspected d.top) e := fun flaw =>
        flaw.not_forall (by rw [nothing]; exact List.forall_mem_nil _)
      simp [none, refused, noFlaw, eq_comm]
  · have mirrors := mirrors_of_ofDocument compiled
    refine ⟨⟨fun _ => ⟨some, sound⟩, fun _ => ⟨p, compiled⟩⟩, fun q => ?_, fun e => ?_⟩
    · constructor
      · exact fun compiled' => ⟨some, sound, mirrors_of_ofDocument compiled'⟩
      · rintro ⟨-, -, other⟩
        rw [compiled, mirrors.unique other]
    · have noFlaw : ¬FirstFlaw (inspected d.top) e := fun flaw => flaw.not_forall sound
      simp [some, compiled, noFlaw]
  · have unsound := flaw.not_forall
    refine ⟨?_, fun p => ?_, fun e' => ?_⟩
    · simp [refused, unsound]
    · simp [refused, unsound]
    · constructor
      · intro reported
        cases refused.symm.trans reported
        exact .inl flaw
      · rintro (other | ⟨none, -⟩)
        · rw [refused, flaw.unique other]
        · exact absurd none some

/-- Of a capture without a name and a separator with content behind it, the separator is
reported, and not what it holds. -/
example : ofDocument ⟨[.element 0 "html" [] [.element 1 "ep-variable" [] [],
    .element 1 "ep-or" [] [.element 2 "ep-regex" [] []]]]⟩ =
      .error (.markerWithContent .or) := by cbv

end Pattern

end Stencil
