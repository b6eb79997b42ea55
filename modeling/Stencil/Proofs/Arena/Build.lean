import Stencil.Proofs.Arena.Layout
import Stencil.Proofs.Document.Nesting

/-!
# Arena — building

An arena under way is, at every step, the layout of the tree under way (`Assembly.builder`), and it
takes every event as the tree does (`Assembly.step_builder`). So what is built is the layout of the
tree that is read, and no index is ever out of bounds (`Arena.build_eq`).
-/

namespace Stencil

open Markup

namespace Arena

variable {before after : List Record} {first : Option Nat} {r : Record} {i : Nat}

/-- A row of trees that lies in an arena of its own. -/
def ofRow (row : List Node) : Arena := ⟨Node.layout 0 none row, link 0 none row⟩

theorem attach_sibling (h : before.length = i) (id : Nat) (parent : Option Nat) :
    attach ⟨before ++ r :: after, first⟩ id (some i) parent =
      .ok ⟨before ++ { r with nextSibling := some id } :: after, first⟩ := by
  rw [attach, change_append h]
  rfl

theorem attach_child (h : before.length = i) (id : Nat) :
    attach ⟨before ++ r :: after, first⟩ id none (some i) =
      .ok ⟨before ++ { r with firstChild := some id } :: after, first⟩ := by
  rw [attach, change_append h]
  rfl

end Arena

namespace Assembly

open Node

variable {a : Assembly} {name : String} {o : OpenElement} {outer : List OpenElement}

/-- A node is added at the innermost level. -/
def push (n : Node) (a : Assembly) : Assembly := { a with siblings := n :: a.siblings }

/-- The index of the last node at the innermost level. -/
def latest (a : Assembly) : Option Nat :=
  match a.siblings with
  | [] => none
  | _ :: earlier => some (base a.enclosing + count earlier.reverse)

/-- A tree under way as it lies in an arena. The last node at each level around an open element is
the element. -/
def builder (a : Assembly) : Builder :=
  ⟨⟨a.records, link 0 none a.records⟩, (spots a.enclosing).reverse,
    (spots a.enclosing).reverse.map some ++ [a.latest]⟩

/-! ### A node more -/

/-- The records of a tree under way, linked to a node that comes next. -/
def linked (a : Assembly) : List Record :=
  around true a.enclosing ++ layout (base a.enclosing) (some a.records.length) a.siblings.reverse

theorem records_push {n : Node} (childless : n.children = []) (a : Assembly) :
    (a.push n).records = a.linked ++ [⟨n.content, none, none, n.depth⟩] := by
  rw [records, linked, push, length_records, List.reverse_cons, layout_append, layout_singleton,
    childless, layout_nil, List.append_assoc]
  rfl

theorem records_enter (a : Assembly) (name : String) (attributes : List Attribute) :
    (a.enter name attributes).records =
      a.linked ++ [⟨.element name attributes, none, none, a.depth⟩] := by
  simp [records, linked, enter, around, spot, depth, base]

/-- The record of the last node at a level stands behind those before it, whatever the node is and
whatever comes next. -/
theorem around_layout_cons (enclosing : List OpenElement) (earlier : List Node) :
    ∃ before, before.length = base enclosing + count earlier.reverse ∧ ∀ n after,
      around true enclosing ++ layout (base enclosing) after (n :: earlier).reverse =
        before ++ ⟨n.content, link (before.length + 1) none n.children, after, n.depth⟩ ::
          layout (before.length + 1) none n.children := by
  let i := base enclosing + count earlier.reverse
  have len : (around true enclosing ++
      layout (base enclosing) (some i) earlier.reverse).length = i := by simp [i]
  refine ⟨_, len, fun n after => ?_⟩
  rw [len, List.reverse_cons, layout_append, layout_singleton, List.append_assoc]
  rfl

/-- The record of the innermost open element stands behind what comes before it. -/
theorem around_cons (o : OpenElement) (outer : List OpenElement) :
    ∃ before, before.length = spot o outer ∧ ∀ filled, around filled (o :: outer) =
      before ++ [⟨.element o.name o.attributes, if filled then some (base (o :: outer)) else none,
        none, outer.length⟩] :=
  ⟨around true outer ++ layout (base outer) (some (spot o outer)) o.earlier.reverse,
    by simp [spot], fun _ => rfl⟩

theorem look_around (filled : Bool) (o : OpenElement) (outer : List OpenElement)
    (later : List Record) : look (around filled (o :: outer) ++ later) (spot o outer) =
      .ok ⟨.element o.name o.attributes, if filled then some (base (o :: outer)) else none, none,
        outer.length⟩ := by
  obtain ⟨before, len, split⟩ := around_cons o outer
  rw [split, List.append_assoc]
  exact look_append len

theorem records_of_cons {n : Node} {earlier : List Node} (e : a.siblings = n :: earlier) :
    a.records =
      around true a.enclosing ++ layout (base a.enclosing) none (n :: earlier).reverse := by
  rw [records, e]
  rfl

/-- A new record is linked to. -/
theorem attach_records (a : Assembly) (r : Record) :
    Arena.attach ⟨a.records ++ [r], link 0 none a.records⟩ a.records.length a.latest
      (spots a.enclosing).reverse.getLast? = .ok ⟨a.linked ++ [r], some 0⟩ := by
  cases e : a.siblings with
  | cons n earlier =>
    -- the last node is linked to the new one
    obtain ⟨before, len, split⟩ := around_layout_cons a.enclosing earlier
    have grown := split n (some a.records.length)
    rw [← e, ← linked] at grown
    rw [latest, e, grown, records_of_cons e, split, List.append_assoc, List.append_assoc,
      List.cons_append, List.cons_append, Arena.attach_sibling len]
    simp [link]
  | nil =>
    cases inner : a.enclosing with
    | nil =>
      -- the new node is the first one of all
      simp [latest, linked, records, e, inner, spots, around, Arena.attach]
    | cons o outer =>
      -- the innermost element is linked to the new node
      obtain ⟨before, len, split⟩ := around_cons o outer
      have now : a.records =
          before ++ [⟨.element o.name o.attributes, none, none, outer.length⟩] := by
        simp [records, e, inner, split]
      have grown : a.linked = before ++
          [⟨.element o.name o.attributes, some a.records.length, none, outer.length⟩] := by
        simp [linked, e, inner, split, length_records]
      have here : (spots (o :: outer)).reverse.getLast? = some (spot o outer) := by simp [spots]
      rw [latest, e, here, grown, now, List.append_assoc, List.append_assoc, List.singleton_append,
        List.singleton_append, Arena.attach_child len]
      simp [link]

theorem look_last (a : Assembly) : look a.builder.last a.builder.opened.length = .ok a.latest :=
  look_append (by simp [builder])

/-- What a new record at the innermost level makes of the arena. -/
theorem append_builder (a : Assembly) (content : Content) :
    a.builder.append content = .ok ⟨⟨a.linked ++ [⟨content, none, none, a.depth⟩], some 0⟩,
      a.builder.opened, (spots a.enclosing).reverse.map some ++ [some a.records.length]⟩ := by
  have level : a.builder.opened.length = a.depth := by simp [builder, depth]
  have last : change a.builder.last a.builder.opened.length (fun _ => some a.builder.records.length) =
      .ok ((spots a.enclosing).reverse.map some ++ [some a.records.length]) :=
    change_append (by simp [builder]) _
  have attached : Arena.attach
      ⟨a.builder.records ++ [⟨content, none, none, a.builder.opened.length⟩], a.builder.first⟩
      a.builder.records.length a.latest a.builder.opened.getLast? =
        .ok ⟨a.linked ++ [⟨content, none, none, a.depth⟩], some 0⟩ :=
    level ▸ attach_records a _
  simp only [Builder.append, look_last, last, attached, ok_bind]

theorem builder_push {n : Node} (childless : n.children = []) (level : n.depth = a.depth) :
    a.builder.append n.content = .ok (a.push n).builder := by
  have grown : (a.push n).builder = ⟨⟨a.linked ++ [⟨n.content, none, none, a.depth⟩], some 0⟩,
      a.builder.opened, (spots a.enclosing).reverse.map some ++ [some a.records.length]⟩ := by
    rw [builder, records_push childless, level]
    simp [builder, latest, push, length_records, link]
  rw [append_builder, grown]

theorem builder_enter (a : Assembly) (name : String) (attributes : List Attribute) :
    a.builder.enter name attributes = .ok (a.enter name attributes).builder := by
  have grown : (a.enter name attributes).builder =
      ⟨⟨a.linked ++ [⟨.element name attributes, none, none, a.depth⟩], some 0⟩,
        a.builder.opened ++ [a.builder.records.length],
        (spots a.enclosing).reverse.map some ++ [some a.records.length] ++ [none]⟩ := by
    rw [builder, records_enter]
    simp [builder, latest, enter, length_records, link, spots, spot]
  rw [Builder.enter, append_builder, grown]
  rfl

/-- A text goes on with a text that is the last node, and else is a node of its own. -/
theorem builder_write (a : Assembly) (content : String) :
    a.builder.write content = .ok (a.write content).builder := by
  have fresh : a.builder.append (.text content) = .ok (a.push (.text a.depth content)).builder :=
    builder_push (n := .text a.depth content) rfl rfl
  by_cases empty : content.isEmpty
  · rw [Builder.write, if_pos empty, write, if_pos empty]
  · rw [Builder.write, if_neg empty, look_last, write, if_neg empty, ok_bind, latest]
    cases e : a.siblings with
    | nil =>
      rw [push, e] at fresh
      exact fresh
    | cons n earlier =>
      obtain ⟨before, len, split⟩ := around_layout_cons a.enclosing earlier
      have now : a.builder.records = _ := (records_of_cons e).trans (split n none)
      simp only [now, look_append len, ok_bind]
      cases n with
      | element d name attributes cs =>
        rw [push, e] at fresh
        exact fresh
      | text d s =>
        have grown : (Assembly.mk (.text d (s ++ content) :: earlier) a.enclosing).records = _ :=
          (records_of_cons rfl).trans (split (.text d (s ++ content)) none)
        change (change _ _ _ >>= fun records =>
          .ok ({ a.builder with records := records } : Builder)) = _
        rw [change_append len, ok_bind]
        have same : a.records = _ := now
        simp [builder, latest, grown, same, e, link, Node.content, Node.children, Node.depth]

/-! ### End tags -/

/-- The innermost open element of a name is found at its level. -/
theorem level?_spots (name : String) (enclosing : List OpenElement) : ∀ filled later,
    Builder.level? (around filled enclosing ++ later) name (spots enclosing) =
      .ok ((enclosing.findIdx? (·.name == name)).map fun inside =>
        enclosing.length - (inside + 1)) := by
  induction enclosing with
  | nil => exact fun _ _ => rfl
  | cons o outer ih =>
    intro filled later
    rw [spots, Builder.level?, look_around, ok_bind, List.findIdx?_cons]
    change (if o.name == name then _ else _) = _
    by_cases same : o.name == name
    · rw [if_pos same, if_pos same]
      simp
    · rw [if_neg same, if_neg same, around, List.append_assoc, List.append_assoc, ih, Option.map_map]
      refine congrArg Except.ok (Option.map_congr fun inside _ => ?_)
      simp

theorem builder_leave (h : a.enclosing = o :: outer) :
    a.leave.builder = { a.builder with
      opened := a.builder.opened.take (a.depth - 1), last := a.builder.last.take a.depth } := by
  have left : a.leave.enclosing = outer := by simp [leave, h]
  have latest : a.leave.latest = some (spot o outer) := by simp [leave, h, Assembly.latest, spot]
  have opened : a.builder.opened = (spots outer).reverse ++ [spot o outer] := by
    simp [builder, h, spots]
  have last : a.builder.last =
      ((spots outer).reverse.map some ++ [some (spot o outer)]) ++ [a.latest] := by
    simp [builder, h, spots]
  rw [opened, last, List.take_left' (by simp [depth, h]), List.take_left' (by simp [depth, h]),
    builder, records_leave, left, latest]
  rfl

/-- Elements that are closed are cut off; the rest is left as it is. -/
theorem builder_leaveAll (n : Nat) : ∀ a : Assembly, n ≤ a.depth →
    (leaveAll n a).builder = { a.builder with
      opened := a.builder.opened.take (a.depth - n),
      last := a.builder.last.take (a.depth - n + 1) } := by
  induction n with
  | zero =>
    intro a _
    simp [leaveAll, builder, depth]
  | succ n ih =>
    intro a h
    obtain ⟨o, outer, e⟩ : ∃ o outer, a.enclosing = o :: outer :=
      List.exists_cons_of_ne_nil (List.ne_nil_of_length_pos (Nat.zero_lt_of_lt h))
    have inner : a.leave.depth = a.depth - 1 := by simp [depth, leave, e]
    rw [leaveAll, ih a.leave (by omega), builder_leave e, inner]
    simp only [List.take_take]
    congr 2 <;> omega

/-- The name of the innermost open element is looked up. -/
theorem look_innermost (h : a.enclosing = o :: outer) :
    a.builder.opened.getLast? = some (spot o outer) ∧
      look a.builder.opened (a.builder.opened.length - 1) = .ok (spot o outer) ∧
      ∃ r, look a.builder.records (spot o outer) = .ok r ∧ r.content.name = o.name := by
  have opened : a.builder.opened = (spots outer).reverse ++ [spot o outer] := by
    simp [builder, h, spots]
  have here := look_around (!a.siblings.isEmpty) o outer
    (layout (base a.enclosing) none a.siblings.reverse)
  rw [← h, ← records] at here
  refine ⟨by simp [opened], ?_, _, here, rfl⟩
  rw [opened]
  exact look_append (by simp)

/-! ### Runs -/

theorem lt_depth_of_inside? {inside : Nat} (h : a.inside? name = some inside) :
    inside < a.depth := (List.findIdx?_eq_some_iff_getElem.mp h).1

theorem builder_close (mode : Mode) (position : Nat) (name : String) (a : Assembly) :
    a.builder.close mode position name =
      ((a.close mode position name).map builder).mapError .markup := by
  by_cases void : isVoid name
  · unfold Builder.close close
    rw [if_pos void, if_pos void]
    rfl
  · have found : Builder.level? a.builder.records name a.builder.opened.reverse =
        .ok ((a.inside? name).map fun inside => a.depth - (inside + 1)) := by
      have met := level?_spots name a.enclosing (!a.siblings.isEmpty)
        (layout (base a.enclosing) none a.siblings.reverse)
      simpa [builder, records, inside?, depth] using met
    unfold Builder.close close
    rw [if_neg void, if_neg void, found, ok_bind]
    cases e : a.inside? name with
    | none =>
      cases mode with
      | lenient => rfl
      | strict => rfl
    | some inside =>
      have deep := lt_depth_of_inside? e
      have kept := builder_leaveAll (inside + 1) a deep
      obtain ⟨o, outer, inner⟩ : ∃ o outer, a.enclosing = o :: outer :=
        List.exists_cons_of_ne_nil (List.ne_nil_of_length_pos (Nat.zero_lt_of_lt deep))
      have level : a.builder.opened.length = a.depth := by simp [builder, depth]
      rw [Option.map_some, inner]
      cases mode with
      | lenient =>
        change (if _ then _ else _) = Except.ok (leaveAll (inside + 1) a).builder
        rw [if_neg (by simp), kept]
      | strict =>
        change (if _ then _ else _) = _
        cases inside with
        | zero =>
          rw [if_neg (by omega), ← kept]
          rfl
        | succ inside =>
          -- the innermost element is another one, and is looked up for the report
          obtain ⟨-, last, r, here, same⟩ := look_innermost inner
          rw [if_pos ⟨rfl, by omega⟩, last, ok_bind, here, ok_bind, same]
          rfl

theorem step_builder (mode : Mode) (a : Assembly) (event : Nat × Event) :
    a.builder.step mode event = ((step mode a event).map builder).mapError .markup := by
  obtain ⟨position, event⟩ := event
  cases event with
  | start name attributes =>
    by_cases void : isVoid name
    · rw [Builder.step, step, if_pos void, if_pos void]
      exact builder_push (n := .element a.depth name attributes []) rfl rfl
    · rw [Builder.step, step, if_neg void, if_neg void]
      exact builder_enter a name attributes
  | selfClosed name attributes =>
    exact builder_push (n := .element a.depth name attributes []) rfl rfl
  | finish name => exact builder_close mode position name a
  | text content => exact builder_write a content

/-- **An arena under way takes events as the tree under way does.** -/
theorem foldlM_builder (mode : Mode) (events : List (Nat × Event)) : ∀ a : Assembly,
    events.foldlM (Builder.step mode) a.builder =
      ((events.foldlM (step mode) a).map builder).mapError .markup := by
  induction events with
  | nil => exact fun _ => rfl
  | cons event rest ih =>
    intro a
    rw [List.foldlM_cons, List.foldlM_cons, step_builder]
    cases step mode a event with
    | error e => rfl
    | ok b => exact ih b

theorem builder_empty : empty.builder = .empty := by
  simp [builder, empty, records, around, latest, spots, link, Builder.empty]

/-- What is still open at the end is closed where it lies. -/
theorem toArena_builder (a : Assembly) :
    a.builder.toArena = Arena.ofRow (leaveAll a.enclosing.length a).siblings.reverse := by
  have closed : (leaveAll a.enclosing.length a).enclosing = [] := by
    rw [enclosing_leaveAll, List.drop_length]
  have same := records_leaveAll a.enclosing.length a
  rw [records, closed, around, base, List.nil_append] at same
  rw [builder, ← same, Arena.ofRow, link_layout]

theorem builder_finish (mode : Mode) (a : Assembly) :
    a.builder.finish mode = ((a.finish mode).map Arena.ofRow).mapError .markup := by
  have whole : .ok a.builder.toArena = (Except.ok (Arena.ofRow
      (leaveAll a.enclosing.length a).siblings.reverse) : Except ArenaFault Arena) :=
    congrArg Except.ok a.toArena_builder
  unfold Builder.finish finish
  cases mode with
  | lenient => exact whole
  | strict =>
    cases e : a.enclosing with
    | nil =>
      have none : a.builder.opened.getLast? = none := by simp [builder, e, spots]
      rw [none]
      rwa [e] at whole
    | cons o outer =>
      obtain ⟨last, -, r, here, same⟩ := look_innermost e
      rw [last]
      change (look _ _ >>= _) = _
      rw [here, ok_bind, same]
      rfl

end Assembly

/-- **What is built is the layout of the tree that is read**, and there is no fault but those of the
markup. -/
theorem Arena.build_eq (mode : Mode) (r : Reading) :
    build mode r = ((Assembly.ofReading mode r).map ofRow).mapError .markup := by
  rw [build, Assembly.ofReading, ← Assembly.builder_empty, Assembly.foldlM_builder]
  cases r.events.foldlM (Assembly.step mode) .empty with
  | error e => rfl
  | ok a =>
    cases r.fault with
    | some fault => rfl
    | none => exact a.builder_finish mode

end Stencil
