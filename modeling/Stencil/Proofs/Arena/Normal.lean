import Mathlib.Data.List.Perm.Subperm
import Stencil.Proofs.Arena.Links
import Stencil.Proofs.Document.Normal

/-!
# Arena — normal form

The way into normal form changes the links of an arena so that they spell the normal form of the row
that they spelled before (`Arena.normalize_of_holds`). At most two records are new, those of an
`html` and of a `body`; without them, the nodes are met in the order in which they were met before.
-/

namespace Stencil

open Document Markup

variable {a : Arena} {records : List Record} {first : Option Nat} {ids ids' : List Nat}
  {row : List Node} {name : String} {i j fresh : Nat}

/-! ### Arenas that hold rows -/

/-- An arena that holds a row of trees and nothing else: the way from the first node on spells the
row and meets every record once. -/
structure Arena.Holds (a : Arena) (ids : List Nat) (row : List Node) : Prop where
  spells : Spells a.records a.first none ids row
  every : ids.Perm (List.range a.records.length)

theorem Arena.Holds.nodup (h : a.Holds ids row) : ids.Nodup := h.every.nodup_iff.mpr List.nodup_range

/-- A row of indices with one more among them. -/
inductive Inserted (fresh : Nat) : List Nat → List Nat → Prop
  | mk (before after : List Nat) : Inserted fresh (before ++ after) (before ++ fresh :: after)

namespace Inserted

theorem append_left (h : Inserted fresh ids ids') (before : List Nat) :
    Inserted fresh (before ++ ids) (before ++ ids') := by
  cases h with
  | mk early late =>
    rw [← List.append_assoc, ← List.append_assoc]
    exact .mk (before ++ early) late

theorem append_right (h : Inserted fresh ids ids') (after : List Nat) :
    Inserted fresh (ids ++ after) (ids' ++ after) := by
  cases h with
  | mk early late =>
    rw [List.append_assoc, List.append_assoc]
    exact .mk early (late ++ after)

theorem cons (h : Inserted fresh ids ids') (i : Nat) : Inserted fresh (i :: ids) (i :: ids') :=
  h.append_left [i]

theorem perm (h : Inserted fresh ids ids') : ids'.Perm (fresh :: ids) := by
  cases h with
  | mk early late => exact List.perm_middle

/-- What is passed over does not matter. -/
theorem filter (h : Inserted fresh ids ids') {p : Nat → Bool} (passed : p fresh = false) :
    ids'.filter p = ids.filter p := by
  cases h with
  | mk early late => simp [passed]

end Inserted

/-- An arena with new records behind those of another one, among which it has the same way. -/
structure Grown (a : Arena) (ids : List Nat) (added : List Content) (a' : Arena)
    (ids' : List Nat) : Prop where
  contents : a'.records.map (·.content) = a.records.map (·.content) ++ added
  kept : ids'.filter (· < a.records.length) = ids

theorem filter_lt_of_holds (h : a.Holds ids row) :
    ids.filter (· < a.records.length) = ids :=
  List.filter_eq_self.mpr fun i mem => decide_eq_true (h.spells.lt_length i mem)

namespace Grown

variable {a' a'' : Arena} {ids'' : List Nat} {added added' : List Content} {c : Content}

theorem refl (h : a.Holds ids row) : Grown a ids [] a ids := ⟨by simp, filter_lt_of_holds h⟩

theorem trans (h : Grown a ids added a' ids') (h' : Grown a' ids' added' a'' ids'') :
    Grown a ids (added ++ added') a'' ids'' := by
  have len : a.records.length ≤ a'.records.length := by
    have sizes := congrArg List.length h.contents
    rw [List.length_map, List.length_append, List.length_map] at sizes
    omega
  have sub : ids''.filter (· < a.records.length) =
      (ids''.filter (· < a'.records.length)).filter (· < a.records.length) := by
    rw [List.filter_filter]
    refine List.filter_congr fun i _ => ?_
    simp only [← Bool.decide_and, decide_eq_decide]
    omega
  exact ⟨by rw [h'.contents, h.contents, List.append_assoc], by rw [sub, h'.kept, h.kept]⟩

/-- One new record. -/
theorem of_inserted (h : a.Holds ids row) (more : Inserted a.records.length ids ids')
    (contents : a'.records.map (·.content) = a.records.map (·.content) ++ [c]) :
    Grown a ids [c] a' ids' :=
  ⟨contents, by rw [more.filter (by simp), filter_lt_of_holds h]⟩

end Grown

/-- With one new record, the way still meets every one. -/
theorem Arena.Holds.insert {a' : Arena} {row' : List Node} {c : Content} (h : a.Holds ids row)
    (more : Inserted a.records.length ids ids')
    (contents : a'.records.map (·.content) = a.records.map (·.content) ++ [c])
    (spells : Spells a'.records a'.first none ids' row') : a'.Holds ids' row' := by
  have len : a'.records.length = a.records.length + 1 := by
    simpa using congrArg List.length contents
  refine ⟨spells, more.perm.trans ?_⟩
  rw [len, List.range_succ]
  exact (List.perm_append_singleton _ _).symm.trans (h.every.append_right _)

/-! ### A new element around a chain -/

/-- The records with a new one behind them, of an element around a chain that goes one level
deeper. -/
def wrapped (name : String) (depth : Nat) (first : Option Nat) (ids : List Nat)
    (records : List Record) : List Record :=
  deepenAt ids records ++ [⟨.element name [], first, none, depth⟩]

section Wrapped

variable {depth : Nat}

@[simp] theorem length_wrapped :
    (wrapped name depth first ids records).length = records.length + 1 := by
  simp [wrapped]

theorem map_content_wrapped (name : String) (depth : Nat) (first : Option Nat) (ids : List Nat)
    (records : List Record) : (wrapped name depth first ids records).map (·.content) =
      records.map (·.content) ++ [.element name []] := by
  rw [wrapped, List.map_append, map_content_deepenAt]
  rfl

theorem getElem?_wrapped_new (name : String) (depth : Nat) (first : Option Nat) (ids : List Nat)
    (records : List Record) : (wrapped name depth first ids records)[records.length]? =
      some ⟨.element name [], first, none, depth⟩ := by
  simp [wrapped]

theorem getElem?_wrapped (bound : i < records.length) :
    (wrapped name depth first ids records)[i]? = (deepenAt ids records)[i]? :=
  List.getElem?_append_left (by simpa)

theorem Spells.length_le_records (h : Spells records first none ids row) (nodup : ids.Nodup) :
    ids.length ≤ records.length := by
  have sub : ids ⊆ List.range records.length := fun i mem => List.mem_range.mpr (h.lt_length i mem)
  simpa using (List.subperm_of_subset nodup sub).length_le

/-- The chain goes deeper, and the new record comes behind. -/
theorem Arena.wrap_of_spells (h : Spells a.records first none ids row) (nodup : ids.Nodup)
    (name : String) (depth : Nat) :
    a.wrap name depth first = .ok { a with records := wrapped name depth first ids a.records } := by
  obtain ⟨fuel, enough⟩ := Nat.exists_eq_add_of_le (h.length_le_records nodup)
  have deeper := deepen_of_spells h rfl fuel [] a.records nodup fun _ _ => rfl
  rw [List.append_nil, ← enough] at deeper
  rw [wrap, deeper, Arena.deepen]
  rfl

/-- The new element holds the chain, one level deeper. -/
theorem Spells.wrap (h : Spells records first none ids row) {records' : List Record}
    (new : records'[fresh]? = some ⟨.element name [], first, none, depth⟩)
    (deeper : ∀ i ∈ ids, records'[i]? = records[i]?.map Record.deepen) :
    Spells records' (some fresh) none (fresh :: ids)
      [.element depth name [] (row.map Node.deepen)] := by
  have around := Spells.cons (n := .element depth name [] (row.map Node.deepen)) new rfl rfl
    (h.deepen deeper) (.nil none)
  rwa [List.append_nil] at around

end Wrapped

/-! ### The body -/

section Body

variable {f : Record → Record}

/-- The records with a new `body` around a chain, and with another record changed. -/
def withBodyAt (first : Option Nat) (ids : List Nat) (i : Nat) (f : Record → Record)
    (records : List Record) : List Record :=
  (wrapped "body" 1 first ids records).modify i f

theorem getElem?_withBodyAt (bound : j < records.length) (other : j ≠ i) (apart : j ∉ ids) :
    (withBodyAt first ids i f records)[j]? = records[j]? := by
  rw [withBodyAt, List.getElem?_modify_ne _ _ other.symm, getElem?_wrapped bound,
    getElem?_deepenAt_of_not_mem apart]

theorem getElem?_withBodyAt_changed (first : Option Nat) (f : Record → Record)
    (bound : i < records.length) (apart : i ∉ ids) :
    (withBodyAt first ids i f records)[i]? = records[i]?.map f := by
  rw [withBodyAt, List.getElem?_modify_eq, getElem?_wrapped bound,
    getElem?_deepenAt_of_not_mem apart]
  rfl

theorem getElem?_withBodyAt_deeper (first : Option Nat) (f : Record → Record)
    (bound : j < records.length) (apart : i ∉ ids) (mem : j ∈ ids) :
    (withBodyAt first ids i f records)[j]? = records[j]?.map Record.deepen := by
  have other : i ≠ j := fun same => apart (same ▸ mem)
  rw [withBodyAt, List.getElem?_modify_ne _ _ other, getElem?_wrapped bound,
    getElem?_deepenAt_of_mem mem]

theorem getElem?_withBodyAt_new (bound : i < records.length) :
    (withBodyAt first ids i f records)[records.length]? =
      some ⟨.element "body" [], first, none, 1⟩ := by
  rw [withBodyAt, List.getElem?_modify_ne _ _ bound.ne, getElem?_wrapped_new]

theorem map_content_withBodyAt (same : ∀ r, (f r).content = r.content) :
    (withBodyAt first ids i f records).map (·.content) =
      records.map (·.content) ++ [.element "body" []] := by
  rw [← map_content_wrapped "body" 1 first ids]
  refine List.ext_getElem? fun j => ?_
  rw [withBodyAt, List.getElem?_map, List.getElem?_map]
  by_cases h : i = j
  · rw [h, List.getElem?_modify_eq]
    cases (wrapped "body" 1 first ids records)[j]? with
    | none => rfl
    | some r => exact congrArg some (same r)
  · rw [List.getElem?_modify_ne _ _ h]

/-- A `body` is put around a chain and linked to. -/
theorem Arena.bodyAround_of_spells (h : Spells a.records first none ids row) (nodup : ids.Nodup)
    (bound : i < a.records.length) (linked : Nat → Record → Record) :
    a.bodyAround first i linked =
      .ok ⟨withBodyAt first ids i (linked a.records.length) a.records, a.first⟩ := by
  rw [bodyAround, wrap_of_spells h nodup, ok_bind, change_eq_ok (by rw [length_wrapped]; omega)]
  rfl

end Body

/-- What is seen of a row tells which of its nodes have a name. -/
theorem any_seen {seen : List (Nat × Content)} {row : List Node} {name : String}
    (contents : seen.map (·.2) = (visible row).map Node.content) (h : name ≠ "") :
    seen.any (·.2.name == name) = (visible row).any (·.isNamed name) := by
  have same : (seen.map (·.2)).any (·.name == name) =
      ((visible row).map Node.content).any (·.name == name) := by rw [contents]
  rw [List.any_map, List.any_map] at same
  refine same.trans (congrArg (List.any _) (funext fun n => ?_))
  exact n.name_content h

/-! ### An element at the top level -/

/-- An arena that is cut at an element of its top level: into the way before it, the way below it
and the way behind it. -/
structure Arena.CutAt (a : Arena) (root : Nat) (r : Record) (way below later : List Nat)
    (earlier : List Node) (n : Node) (rest : List Node) : Prop where
  front : Spells a.records a.first (some root) way earlier
  here : a.records[root]? = some r
  content : r.content = n.content
  depth : r.depth = n.depth
  inner : Spells a.records r.firstChild none below n.children
  next : Spells a.records r.nextSibling none later rest
  every : (way ++ root :: (below ++ later)).Perm (List.range a.records.length)

/-- What is made of an arena: an arena that holds a row, with some of these as new records. -/
def Arena.Becomes (a : Arena) (ids : List Nat) (x : Except ArenaFault Arena) (row : List Node)
    (most : List Content) : Prop :=
  ∃ a' ids' added, x = .ok a' ∧ a'.Holds ids' row ∧ Grown a ids added a' ids' ∧ added.Sublist most

namespace Arena.CutAt

variable {root : Nat} {r r' : Record} {way below below' later : List Nat} {earlier rest : List Node}
  {n : Node} {table : List Record} {c : Content}

theorem holds (h : a.CutAt root r way below later earlier n rest) :
    a.Holds (way ++ root :: (below ++ later)) (earlier ++ n :: rest) :=
  ⟨h.front.append (.cons h.here h.content h.depth h.inner h.next), h.every⟩

/-- An arena is cut at a node that the way leads to. -/
theorem of_spells (way : List Nat) {on : List Nat} (every : (way ++ on).Perm (List.range a.records.length))
    (front : Spells a.records a.first (some root) way earlier)
    (behind : Spells a.records (some root) none on (n :: rest)) :
    ∃ r below later, on = root :: (below ++ later) ∧
      a.CutAt root r way below later earlier n rest := by
  cases behind with
  | cons here content depth inner next =>
    exact ⟨_, _, _, rfl, front, here, content, depth, inner, next, every⟩

theorem bound (h : a.CutAt root r way below later earlier n rest) : root < a.records.length :=
  (List.getElem?_eq_some_iff.mp h.here).1

/-- The element gets other children, with one new record among them. -/
theorem fill (h : a.CutAt root r way below later earlier n rest) (n' : Node)
    (kept : ∀ j ∈ way ++ later, table[j]? = a.records[j]?) (here : table[root]? = some r')
    (content : r'.content = n'.content) (depth : r'.depth = n'.depth)
    (sibling : r'.nextSibling = r.nextSibling)
    (inner : Spells table r'.firstChild none below' n'.children)
    (more : Inserted a.records.length below below')
    (contents : table.map (·.content) = a.records.map (·.content) ++ [c]) :
    a.Becomes (way ++ root :: (below ++ later)) (.ok ⟨table, a.first⟩) (earlier ++ n' :: rest)
      [c] := by
  have before := h.front.frame fun j mem => kept j (List.mem_append_left _ mem)
  have behind := h.next.frame fun j mem => kept j (List.mem_append_right _ mem)
  rw [← sibling] at behind
  have more := ((more.append_right later).cons root).append_left way
  exact ⟨_, _, _, rfl, h.holds.insert more contents
    (before.append (.cons here content depth inner behind)), .of_inserted h.holds more contents,
    .refl _⟩

variable {d : Nat} {attributes : List Attribute} {cs : List Node}

/-- A `body` around all children. -/
theorem body_around (h : a.CutAt root r way below later earlier (.element d name attributes cs) rest) :
    a.Becomes (way ++ root :: (below ++ later))
      (a.bodyAround r.firstChild root fun body r => { r with firstChild := some body })
      (earlier ++ .element d name attributes [.element 1 "body" [] (cs.map Node.deepen)] :: rest)
      [.element "body" []] := by
  have nodup := h.holds.nodup
  have bound := h.bound
  have lies : ∀ j ∈ way ++ root :: (below ++ later), j < a.records.length :=
    h.holds.spells.lt_length
  have apart : root ∉ below := by grind
  rw [bodyAround_of_spells h.inner (by grind) bound]
  have here := getElem?_withBodyAt_changed r.firstChild
    (fun r => { r with firstChild := some a.records.length }) bound apart
  rw [h.here, Option.map_some] at here
  refine h.fill (.element d name attributes _) (fun j mem => ?_) here h.content h.depth rfl
    (h.inner.wrap (getElem?_withBodyAt_new bound) fun j mem => ?_) (.mk [] below)
    (map_content_withBodyAt fun _ => rfl)
  · exact getElem?_withBodyAt (lies j (by grind)) (by grind) (by grind)
  · exact getElem?_withBodyAt_deeper _ _ (lies j (by grind)) apart mem

/-- A `body` around what follows a child. -/
theorem body_behind {i : Nat} {s : Record} {way' below' later' : List Nat} {early late : List Node}
    {m : Node} (h : a.CutAt root r way (way' ++ i :: (below' ++ later')) later earlier
      (.element d name attributes (early ++ m :: late)) rest)
    (front : Spells a.records r.firstChild (some i) way' early) (here : a.records[i]? = some s)
    (content : s.content = m.content) (depth : s.depth = m.depth)
    (inner : Spells a.records s.firstChild none below' m.children)
    (next : Spells a.records s.nextSibling none later' late) :
    a.Becomes (way ++ root :: (way' ++ i :: (below' ++ later') ++ later))
      (a.bodyAround s.nextSibling i fun body r => { r with nextSibling := some body })
      (earlier ++ .element d name attributes
        (early ++ [m, .element 1 "body" [] (late.map Node.deepen)]) :: rest)
      [.element "body" []] := by
  have nodup := h.holds.nodup
  have lies : ∀ j ∈ way ++ root :: (way' ++ i :: (below' ++ later') ++ later),
      j < a.records.length := h.holds.spells.lt_length
  have bound := lies i (by simp)
  have apart : i ∉ later' := by grind
  rw [bodyAround_of_spells next (by grind) bound]
  have changed := getElem?_withBodyAt_changed s.nextSibling
    (fun r => { r with nextSibling := some a.records.length }) bound apart
  rw [here, Option.map_some] at changed
  have kept : ∀ j ∈ way ++ root :: (way' ++ (below' ++ later)),
      (withBodyAt s.nextSibling later' i (fun r => { r with nextSibling := some a.records.length })
        a.records)[j]? = a.records[j]? := fun j mem =>
    getElem?_withBodyAt (lies j (by grind)) (by grind) (by grind)
  have body := next.wrap (getElem?_withBodyAt_new bound) fun j mem =>
    getElem?_withBodyAt_deeper s.nextSibling
      (fun r => { r with nextSibling := some a.records.length }) (lies j (by grind)) apart mem
  refine h.fill (.element d name attributes _) (fun j mem => kept j (by grind))
    ((kept root (by simp)).trans h.here) h.content h.depth rfl ?_
    (((Inserted.mk below' later').cons i).append_left way') (map_content_withBodyAt fun _ => rfl)
  exact (front.frame fun j mem => kept j (by grind)).append
    (.cons changed content depth (inner.frame fun j mem => kept j (by grind)) body)

/-- **A body is put where it belongs**, or it is there. -/
theorem withBody (h : a.CutAt root r way below later earlier (.element d name attributes cs) rest) :
    a.Becomes (way ++ root :: (below ++ later)) (a.withBody root)
      (earlier ++ .element d name attributes (Document.withBody cs) :: rest)
      [.element "body" []] := by
  have inner : Spells a.records r.firstChild none below cs := h.inner
  have nodup := h.holds.nodup
  obtain ⟨seen, found, contents, first⟩ := visible_of_spells inner
    (inner.length_le.trans (inner.length_le_records (by grind)))
  have any := any_seen contents (by decide : "body" ≠ "")
  rw [Arena.withBody, look_eq_ok h.here, ok_bind, found, ok_bind, any]
  by_cases body : (Document.visible cs).any (·.isNamed "body")
  · rw [if_pos body, withBody_of_body body]
    exact ⟨a, _, [], rfl, h.holds, .refl h.holds, List.nil_sublist _⟩
  · rw [if_neg body]
    cases seen with
    | nil =>
      rw [withBody_of_blank (List.map_eq_nil_iff.mp contents.symm)]
      exact h.body_around
    | cons s more =>
      obtain ⟨i, c⟩ := s
      obtain ⟨m, blank, shown, front, on⟩ := first i c more rfl
      rw [visible_append_cons blank shown, List.map_cons, List.map_cons] at contents
      obtain rfl : c = m.content := (List.cons.inj contents).1
      rw [leadingHead?, m.name_content (by decide)]
      by_cases head : m.isNamed "head"
      · cases on with
        | cons here content depth inner next =>
          rw [if_pos head, withBody_of_head blank shown body head]
          change Becomes _ _ (look _ _ >>= _) _ _
          rw [look_eq_ok here, ok_bind]
          exact h.body_behind front here content depth inner next
      · rw [if_neg head, withBody_of_other blank shown body head]
        exact h.body_around

end Arena.CutAt

/-! ### The whole -/

namespace Arena

variable {top : List Node}

/-- The arena with an `html` around everything. -/
theorem wrap_of_holds (h : a.Holds ids top) :
    ∃ table, a.wrap "html" 0 a.first = .ok ⟨table, a.first⟩ ∧
      (Arena.mk table (some a.records.length)).Holds (a.records.length :: ids)
        [.element 0 "html" [] (top.map Node.deepen)] ∧
      Grown a ids [.element "html" []] ⟨table, some a.records.length⟩ (a.records.length :: ids) := by
  have around := h.spells.wrap (getElem?_wrapped_new "html" 0 a.first ids a.records)
    fun i mem => (getElem?_wrapped (h.spells.lt_length i mem)).trans (getElem?_deepenAt_of_mem mem)
  have more : Inserted a.records.length ids (a.records.length :: ids) := .mk [] ids
  exact ⟨_, wrap_of_spells h.spells h.nodup "html" 0, h.insert more (map_content_wrapped ..) around,
    .of_inserted h more (map_content_wrapped ..)⟩

/-- **The way into normal form.** -/
theorem normalize_of_holds (h : a.Holds ids top) :
    a.Becomes ids a.normalize (normalized top) [.element "html" [], .element "body" []] := by
  obtain ⟨seen, found, contents, first⟩ := visible_of_spells h.spells
    (h.spells.length_le.trans (h.spells.length_le_records h.nodup))
  rw [normalize, found, ok_bind]
  cases seen with
  | nil =>
    rw [normalized_of_blank (List.map_eq_nil_iff.mp contents.symm)]
    exact ⟨a, ids, [], rfl, h, .refl h, List.nil_sublist _⟩
  | cons s more =>
    obtain ⟨i, c⟩ := s
    obtain ⟨m, split⟩ := first i c more rfl
    cases split with
    | @mk early late way later blank shown front on =>
    rw [visible_append_cons blank shown] at contents
    obtain ⟨rfl, others⟩ := List.cons.inj contents
    rw [if_neg (by simp)]
    by_cases html : Document.visible late = [] ∧ m.isNamed "html"
    · -- the only node that is not blank is the root
      obtain ⟨alone, html⟩ := html
      obtain rfl : more = [] := List.map_eq_nil_iff.mp (others.trans (by rw [alone]; rfl))
      have root : onlyHtml? [(i, m.content)] = some i := by
        rw [onlyHtml?, m.name_content (by decide), if_pos html]
      rw [root, normalized_of_html blank shown alone html]
      obtain ⟨r, below, later, rfl, cut⟩ := CutAt.of_spells way h.every front on
      cases m with
      | text d content => cases html
      | element d name attributes cs =>
        obtain ⟨a', ids', added, run, holds, grown, few⟩ := cut.withBody
        exact ⟨a', ids', added, run, holds, grown, few.cons _⟩
    · -- an element that is put around all of them becomes the root
      have root : onlyHtml? ((i, m.content) :: more) = none := by
        cases more with
        | cons s more => rfl
        | nil =>
          have alone : Document.visible late = [] := List.map_eq_nil_iff.mp others.symm
          rw [onlyHtml?, m.name_content (by decide), if_neg (not_and.mp html alone)]
      rw [root, normalized_of_other blank shown fun alone => not_and.mp html alone]
      obtain ⟨table, run, around, grown⟩ := wrap_of_holds h
      obtain ⟨r, below, later, same, cut⟩ :=
        CutAt.of_spells [] around.every (.nil _) around.spells
      obtain ⟨a', ids', added, filled, holds, more, few⟩ := cut.withBody
      have all := grown.trans (same ▸ more)
      refine ⟨a', ids', .element "html" [] :: added, ?_, holds, all, few.cons_cons _⟩
      change (wrap _ _ _ _ >>= _) = _
      rw [run]
      exact filled

end Arena

end Stencil
