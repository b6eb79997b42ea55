import Stencil.Proofs.Template.Compiled
import Stencil.Proofs.Template.Reserved

/-!
# Template — operators of compiled patterns

The nodes of a compiled pattern that stand for operators are, one by one and in their order, what
the reserved elements of the markup ask for, and what stands above each of them stands for what is
around the element (`Template.operators_of_compile`). A regular expression that is reported is the
value of one of these elements (`Template.reported_of_compile`).
-/

namespace Stencil

open Template Markup

/-- The reserved element that a kind of node stands for; elements and texts stand for none. -/
def Kind.marker? : Kind → Option Marker
  | element _ | literal _ => none
  | search _ => some .regex
  | wildcard => some .something
  | wildcardExcept => some .but
  | many => some .many
  | scope => some .scope
  | capture _ => some .capture
  | either => some .either
  | option => some .or

/-- The nodes of a pattern that stand for operators, in the order of the template, each with the
kinds of the nodes above it, the innermost first. -/
def Pattern.operators (above : List Kind) : Pattern → List (List Kind × Kind)
  | nil => []
  | node kind child next =>
    kind.marker?.toList.map (fun _ => (above, kind)) ++ child.operators (kind :: above) ++
      next.operators above

namespace Template

variable {around : List String} {above : List Kind} {kind : Kind} {m : Marker}
  {attributes : List Attribute}

/-- What a reserved element with these attributes asks for. -/
def asked (m : Marker) (attributes : List Attribute) : Except TemplateError Kind :=
  match m with
  | .something => .ok .wildcard
  | .but => .ok .wildcardExcept
  | .many => .ok .many
  | .scope => .ok .scope
  | .capture => (required .capture "name" attributes).map .capture
  | .regex => required .regex "value" attributes >>= searchFor
  | .either => .ok .either
  | .or => .ok .option

theorem searchFor_eq_ok {b : String} (h : searchFor b = .ok kind) :
    ∃ regex, Regex.ofSource? b = some regex ∧ kind = .search regex := by
  unfold searchFor at h
  split at h
  · next regex found => exact ⟨regex, found, (Except.ok.inj h).symm⟩
  · cases h

/-- What an element asks for stands for this element. -/
theorem marker?_of_asked (h : asked m attributes = .ok kind) : kind.marker? = some m := by
  cases m with
  | something | but | many | scope | either | or =>
    cases h
    rfl
  | capture =>
    obtain ⟨name, -, rfl⟩ := ok_of_map h
    rfl
  | regex =>
    obtain ⟨value, -, h⟩ := ok_of_bind h
    obtain ⟨regex, -, rfl⟩ := searchFor_eq_ok h
    rfl

/-- A node with something below it stands for an element of a name. -/
inductive Named : Kind → String → Prop
  | element {tag : String} : Marker.ofName? tag = none → Named (.element tag) tag
  | operator {kind : Kind} {name : String} {m : Marker} : kind.marker? = some m →
      Marker.ofName? name = some m → Named kind name

theorem Named.marker?_eq {name : String} (h : Named kind name) :
    kind.marker? = Marker.ofName? name := by
  cases h with
  | element plain => exact plain.symm
  | operator stands reserved => exact stands.trans reserved.symm

/-- A node of a pattern is what a reserved element asks for, in its place. -/
structure Stands (o : List Kind × Kind)
    (v : (List Marker × Option Marker) × Marker × List Attribute) : Prop where
  /-- The operators above the node, and the one directly above it. -/
  above : (o.1.filterMap Kind.marker?, o.1.head?.bind Kind.marker?) = v.1
  /-- What else stands above it is an element. -/
  elements : ∀ k ∈ o.1, k.marker? = none → ∃ tag, k = .element tag
  asked : asked v.2.1 v.2.2 = .ok o.2

theorem filterMap_marker? (places : List.Forall₂ Named above around) :
    above.filterMap Kind.marker? = reserved around := by
  induction places with
  | nil => rfl
  | cons named _ ih =>
    rw [reserved, List.filterMap_cons, List.filterMap_cons, named.marker?_eq, ih]
    rfl

theorem stands_of_named (places : List.Forall₂ Named above around)
    (given : Template.asked m attributes = .ok kind) :
    Stands (above, kind) (view around, m, attributes) where
  above := by
    refine Prod.ext (filterMap_marker? places) ?_
    cases places with
    | nil => rfl
    | cons named _ => exact named.marker?_eq
  elements := by
    intro k mem none
    induction places with
    | nil => cases mem
    | cons named _ ih =>
      rcases List.mem_cons.mp mem with rfl | mem
      · cases named with
        | element _ => exact ⟨_, rfl⟩
        | operator stands _ => cases none.symm.trans stands
      · exact ih mem
  asked := given

end Template

namespace Pattern

variable {around : List String} {above : List Kind} {kind : Kind} {m : Marker} {p child : Pattern}
  {d : Nat} {name e : String} {attributes : List Attribute} {children : List Node}

/-! ### Patterns that are compiled -/

theorem ofNodes_of_blank (row : List Node) (h : row.all (·.isBlank)) : ofNodes row = .ok nil := by
  induction row with
  | nil => rw [ofNodes]
  | cons n rest ih =>
    rw [List.all_cons, Bool.and_eq_true] at h
    rw [ofNodes_cons_of_blank h.1, ih h.2]

theorem ofNode_leaf {asked : Except TemplateError Kind}
    (h : leaf m children asked = .ok (kind, child)) :
    asked = .ok kind ∧ ofNodes children = .ok child := by
  rw [leaf] at h
  split at h
  · next blank =>
    obtain ⟨found, given, eq⟩ := ok_of_map h
    cases eq
    exact ⟨given, ofNodes_of_blank children blank⟩
  · cases h

/-- A reserved element becomes what it asks for, with its children. -/
theorem ofNode_reserved (h : Marker.ofName? name = some m)
    (compiled : ofNode (.element d name attributes children) = .ok (kind, child)) :
    asked m attributes = .ok kind ∧ ofNodes children = .ok child := by
  rw [ofNode, h] at compiled
  cases m with
  | something | or | regex => exact ofNode_leaf compiled
  | capture =>
    obtain ⟨captured, given, compiled⟩ := ok_of_bind compiled
    obtain ⟨inner, inside, compiled⟩ := ok_of_bind compiled
    cases compiled
    exact ⟨by rw [asked, given]; rfl, inside⟩
  | but | many | scope | either =>
    obtain ⟨inner, inside, compiled⟩ := ok_of_bind compiled
    cases compiled
    exact ⟨rfl, inside⟩

theorem views_of_blank {n : Node} (h : n.isBlank) (rest : List Node) :
    Node.views around (n :: rest) = Node.views around rest := by
  cases n with
  | element d name attributes cs => cases h
  | text d content => rw [Node.views_text]

/-- **The operators of a pattern are those of the row that it is compiled from**, one by one. -/
theorem operators_of_ofNodes (row : List Node) : ∀ {p : Pattern} {above : List Kind}
    {around : List String}, List.Forall₂ Named above around → ofNodes row = .ok p →
      List.Forall₂ Stands (p.operators above) (Node.views around row) := by
  induction row using Node.row_induction with
  | nil =>
    intro p above around _ compiled
    rw [ofNodes] at compiled
    cases compiled
    rw [operators, Node.views_nil]
    exact .nil
  | cons n rest ihc ih =>
    intro p above around places compiled
    by_cases blank : n.isBlank
    · rw [ofNodes_cons_of_blank blank] at compiled
      rw [views_of_blank blank]
      exact ih places compiled
    · obtain ⟨kind, child, next, here, later, rfl⟩ :=
        ofNodes_cons_of_visible (by simpa using blank) compiled
      rw [operators]
      cases n with
      | text d content =>
        rw [ofNode] at here
        cases here
        rw [Node.views_text]
        exact ih places later
      | element d name attributes children =>
        rw [Node.views_element]
        refine List.rel_append ?_ (ih places later)
        cases reserved : Marker.ofName? name with
        | none =>
          obtain ⟨rfl, inside⟩ := ofNode_element reserved here
          rw [placedAt_of_none reserved]
          exact ihc (.cons (.element reserved) places) inside
        | some m =>
          obtain ⟨given, inside⟩ := ofNode_reserved reserved here
          have stands := marker?_of_asked given
          rw [stands, placedAt, reserved]
          exact .cons (stands_of_named places given)
            (ihc (.cons (.operator stands reserved) places) inside)

/-! ### Expressions that are reported -/

theorem reported_leaf {asked : Except TemplateError Kind}
    (h : leaf m children asked = .error (.invalidRegex e)) : asked = .error (.invalidRegex e) := by
  rw [leaf] at h
  split at h
  · cases asked with
    | error fault =>
      cases h
      rfl
    | ok kind => cases h
  · cases h

theorem required_ne_invalid (m : Marker) (key : String) (attributes : List Attribute) :
    required m key attributes ≠ .error (.invalidRegex e) := by
  unfold required
  split
  · nofun
  · nofun

/-- Where a reserved element reports an expression, this is what it asks for, or it stands among
the children. -/
theorem reported_ofNode (h : Marker.ofName? name = some m)
    (reported : ofNode (.element d name attributes children) = .error (.invalidRegex e)) :
    asked m attributes = .error (.invalidRegex e) ∨
      ofNodes children = .error (.invalidRegex e) := by
  rw [ofNode, h] at reported
  cases m with
  | something | or | regex => exact .inl (reported_leaf reported)
  | capture =>
    rcases error_of_bind reported with missing | ⟨captured, -, reported⟩
    · exact absurd missing (required_ne_invalid _ _ _)
    · rcases error_of_bind reported with inside | ⟨inner, -, reported⟩
      · exact .inr inside
      · cases reported
  | but | many | scope | either =>
    rcases error_of_bind reported with inside | ⟨inner, -, reported⟩
    · exact .inr inside
    · cases reported

/-- An expression that a row reports is asked for by one of its reserved elements. -/
theorem reported_of_ofNodes (row : List Node) : ∀ around,
    ofNodes row = .error (.invalidRegex e) →
      ∃ v ∈ Node.views around row, asked v.2.1 v.2.2 = .error (.invalidRegex e) := by
  induction row using Node.row_induction with
  | nil =>
    intro around reported
    rw [ofNodes] at reported
    cases reported
  | cons n rest ihc ih =>
    intro around reported
    rw [ofNodes] at reported
    -- what stands behind a node is compiled before it
    rcases error_of_bind reported with behind | ⟨next, -, reported⟩
    · obtain ⟨v, mem, given⟩ := ih around behind
      refine ⟨v, ?_, given⟩
      cases n with
      | element d name attributes cs =>
        rw [Node.views_element]
        exact List.mem_append_right _ mem
      | text d content =>
        rw [Node.views_text]
        exact mem
    split at reported
    · cases reported
    rcases error_of_bind reported with here | ⟨found, -, reported⟩
    · cases n with
      | text d content =>
        rw [ofNode] at here
        cases here
      | element d name attributes cs =>
        rw [Node.views_element]
        have below (inside : ofNodes cs = .error (.invalidRegex e)) :
            ∃ v ∈ (placedAt around name attributes).map (·.view) ++
              Node.views (name :: around) cs ++ Node.views around rest,
                asked v.2.1 v.2.2 = .error (.invalidRegex e) := by
          obtain ⟨v, mem, given⟩ := ihc (name :: around) inside
          exact ⟨v, List.mem_append_left _ (List.mem_append_right _ mem), given⟩
        cases reserved : Marker.ofName? name with
        | none =>
          rw [ofNode, reserved] at here
          rcases error_of_bind here with inside | ⟨inner, -, here⟩
          · exact below inside
          · cases here
        | some m =>
          rcases reported_ofNode reserved here with given | inside
          · refine ⟨(view around, m, attributes), ?_, given⟩
            rw [placedAt, reserved]
            exact List.mem_append_left _ (List.mem_append_left _ List.mem_cons_self)
          · exact below inside
    · cases reported

end Pattern

/-- The byte of the template at which an operator is reported, if one is. -/
def TemplateError.offset? : TemplateError → Option Nat
  | unterminatedOperator _ offset | unexpectedClose _ offset | mismatchedClose _ _ offset
  | unterminatedRegex offset | emptyRegex offset | invalidCaptureName _ offset
  | optionOutsideAlternative offset => some offset
  | markerWithContent _ | missingAttribute _ _ | invalidRegex _ | emptyTemplate | markup _ => none

namespace Template

variable {template : String} {p : Pattern} {e : String}

/-- **The operators of a compiled template are those of its tags**, one by one. -/
theorem operators_of_compile (compiled : compile template = .ok p) :
    ∃ markup, expand template = .ok markup ∧
      Bracket.WellNested (tags (said (dropMark markup.toList))) ∧
      List.Forall₂ Stands (p.operators [])
        ((placements [] (said (dropMark markup.toList))).map (·.view)) := by
  obtain ⟨markup, d, expanded, read, compiled⟩ := Pattern.ofNodes_of_compile compiled
  obtain ⟨views, -, nested⟩ := placements_of_read read
  refine ⟨markup, expanded, nested, ?_⟩
  rw [← views]
  exact Pattern.operators_of_ofNodes d.top .nil compiled

/-- A token that is out of place is reported at an offset. -/
theorem offset_of_step {offset : Nat} {nesting : Nesting} {t : Token} {fault : TemplateError}
    (h : nesting.step offset t = .error fault) : fault.offset?.isSome := by
  unfold Nesting.step at h
  repeat' split at h
  all_goals cases h <;> rfl

theorem offset_of_run (ts : List Token) : ∀ {offset : Nat} {nesting : Nesting}
    {fault : TemplateError}, Nesting.run offset nesting ts = .error fault →
    fault.offset?.isSome := by
  induction ts with
  | nil =>
    intro offset nesting fault reported
    cases reported
  | cons t ts ih =>
    intro offset nesting fault reported
    rcases error_of_bind reported with here | ⟨next, -, later⟩
    · exact offset_of_step here
    · exact ih later

/-- A template that is not expanded is reported at an offset. -/
theorem offset_of_expand {template : String} {fault : TemplateError}
    (h : expand template = .error fault) : fault.offset?.isSome := by
  have reported : (Tokens.ofSource template.toList).expand = .error fault := by
    cases found : (Tokens.ofSource template.toList).expand with
    | ok markup => rw [expand, found] at h; cases h
    | error other => rw [expand, found] at h; cases h; rfl
  rcases error_of_bind reported with nested | ⟨⟨left, behind⟩, -, reported⟩
  · exact offset_of_run _ nested
  · dsimp only at reported
    split at reported
    · next regex _ => cases regex <;> cases reported <;> rfl
    · cases reported
      rfl
    · cases reported

/-- An expression that is reported is that of one of the tags. -/
theorem reported_of_compile (reported : compile template = .error (.invalidRegex e)) :
    ∃ markup, expand template = .ok markup ∧
      ∃ pl ∈ placements [] (said (dropMark markup.toList)),
        asked pl.marker pl.attributes = .error (.invalidRegex e) := by
  rcases error_of_bind reported with refused | ⟨markup, expanded, reported⟩
  · exact absurd (offset_of_expand refused) (by simp [TemplateError.offset?])
  · refine ⟨markup, expanded, ?_⟩
    cases read : Document.read markup .strict with
    | error fault =>
      rw [read] at reported
      cases reported
    | ok d =>
      rw [read] at reported
      rcases error_of_bind reported with compiled | ⟨whole, -, reported⟩
      · obtain ⟨v, mem, given⟩ := Pattern.reported_of_ofNodes d.top [] compiled
        rw [(placements_of_read read).1] at mem
        obtain ⟨pl, here, rfl⟩ := List.mem_map.mp mem
        exact ⟨pl, here, given⟩
      · cases whole with
        | nil => cases reported
        | node kind child next => cases reported

end Template

end Stencil
