import Mathlib
import Stencil.Matching.Run
import Stencil.Proofs.Capture.Scope
import Stencil.Proofs.Document.Outline
import Stencil.Proofs.Matching.Effects
import Stencil.Proofs.Template.Compiled

/-!
# Matching — which captures last

What is captured in a repetition or in a forbidden pattern is thrown away with its frame or its
scope, so that a name in the scope that a match returns is captured elsewhere
(`Pattern.bound_names_last`). In a pattern without alternatives, in which each node is looked at, a
valid match has bound all other captures (`Pattern.valid_binds_all`).
-/

namespace Stencil

namespace Kind

/-- Whether a node never looks at its child. -/
def ignoresChild : Kind → Bool
  | literal _ | search _ | wildcard | option => true
  | _ => false

end Kind

namespace Pattern

/-- The names of the captures that stand neither in a repetition nor in a forbidden pattern. -/
def lasting : Pattern → List String
  | nil => []
  | node kind child next =>
    kind.captureName?.toList ++ (if kind.forgets then [] else child.lasting) ++ next.lasting

/-- The names of those of these captures that do not stand below a node that never looks there. -/
def assured : Pattern → List String
  | nil => []
  | node kind child next =>
    kind.captureName?.toList ++
      (if kind.forgets || kind.ignoresChild then [] else child.assured) ++ next.assured

/-- The captures that last are those among the effects. -/
theorem bind_mem_effects {p : Pattern} {name : String} :
    .bind name ∈ p.effects ↔ name ∈ p.lasting := by
  induction p with
  | nil => simp [effects, lasting]
  | node kind child next ihc ihn =>
    have here : .bind name ∈ kind.effect?.toList ↔ name ∈ kind.captureName?.toList := by
      cases kind with
      | capture n => simp [Kind.effect?, Kind.captureName?]
      | _ => simp [Kind.effect?, Kind.captureName?]
    have low : .bind name ∈ (if kind.forgets then [] else child.effects) ↔
        name ∈ (if kind.forgets then [] else child.lasting) := by
      split
      · simp
      · exact ihc
    rw [effects, lasting, List.mem_append, List.mem_append, List.mem_append, List.mem_append, here,
      low, ihn]

end Pattern

/-! ### Names that are bound -/

namespace Scope

variable {names : List String} {s other : Scope}

/-- No frame binds a name that is not among these. -/
def Within (names : List String) (s : Scope) : Prop :=
  ∀ f ∈ s.frames, ∀ name, f.get? name ≠ none → name ∈ names

theorem within_fresh : fresh.Within names := by
  intro f mem name bound
  cases List.mem_singleton.mp mem
  exact absurd rfl bound

theorem Within.push (h : s.Within names) : s.push.Within names := by
  intro f mem name bound
  rcases List.mem_cons.mp mem with rfl | mem
  · exact absurd rfl bound
  · exact h f mem name bound

theorem Within.assign {name value : String} (h : s.Within names) (mem : name ∈ names) :
    (s.assign name value).Within names := by
  intro f inside n bound
  rcases List.mem_cons.mp inside with rfl | outside
  · rw [Scope.assign, NameMap.get?_insert] at bound
    by_cases same : n = name
    · exact same ▸ mem
    · rw [if_neg same] at bound
      exact h s.innermost List.mem_cons_self n bound
  · exact h f (List.mem_cons_of_mem _ outside) n bound

theorem Within.mergeInnermost (h : s.Within names) (ho : other.Within names) :
    (s.mergeInnermost other).Within names := by
  intro f inside n bound
  rcases List.mem_cons.mp inside with rfl | outside
  · rw [Scope.mergeInnermost, NameMap.get?_merge] at bound
    cases found : other.innermost.get? n with
    | some value => exact ho other.innermost List.mem_cons_self n (by simp [found])
    | none =>
      rw [found, Option.none_or] at bound
      exact h s.innermost List.mem_cons_self n bound
  · exact h f (List.mem_cons_of_mem _ outside) n bound

theorem Within.mem_of_names (h : s.Within names) {f : Frame} {name : String} (mem : f ∈ s.frames)
    (bound : name ∈ f.names) : name ∈ names := h f mem name (NameMap.get?_ne_none_iff.mpr bound)

theorem Within.get?_eq_none (h : s.Within names) {name : String} (absent : name ∉ names) :
    s.get? name = none := by
  rw [get?, List.findSome?_eq_none_iff]
  intro f mem
  by_contra bound
  exact absent (h f mem name bound)

end Scope

namespace Matcher

/-- From a scope that binds none but these names, such a scope is returned, whatever the verdict. -/
def BindsOnly (names : List String) (m : Matcher) : Prop :=
  ∀ pos s, s.Within names → (m pos s).scope.Within names

end Matcher

namespace Pattern

variable {names : List String}

/-- A matcher binds no name but those of the captures that last. -/
theorem bindsOnly_matcher (p : Pattern) (sub : ∀ name ∈ p.lasting, name ∈ names) :
    Matcher.BindsOnly names p.matcher := by
  refine keeps_matcher (fun _ _ => Scope.Within.mergeInnermost) p fun e mem => ?_
  cases e with
  | bind name => exact fun _ _ within => within.assign (sub name (bind_mem_effects.mp mem))
  | push => exact fun _ => Scope.Within.push

/-- **Captures of repetitions and of forbidden patterns never survive.** Whatever a run comes to,
every name that is bound in a frame of the scope that it returns is that of a capture that stands
neither in a repetition nor in a forbidden pattern; no other name is visible there. -/
theorem bound_names_last (p : Pattern) (d : Document) :
    (∀ f ∈ (p.run d).scope.frames, ∀ name ∈ f.names, name ∈ p.lasting) ∧
      ∀ name, name ∉ p.lasting → (p.run d).scope.get? name = none := by
  have within : (p.run d).scope.Within p.lasting :=
    p.bindsOnly_matcher (fun _ mem => mem) d.outline .fresh Scope.within_fresh
  exact ⟨fun f mem name => within.mem_of_names mem, fun name => within.get?_eq_none⟩

/-- The title of a page is bound after the match, the items of its list are not. -/
theorem bound_names_last_title :
    ∃ p d, Template.compile ("<h1>\x7b$title\x7dHi\x7b/$title\x7d</h1>" ++
        "\x7bmany\x7d<p>\x7b$item\x7d\x7b...\x7d\x7b/$item\x7d</p>\x7b/many\x7d") = .ok p ∧
      Document.read "<h1>Hi</h1><p>one</p>" .lenient = .ok d ∧
      (p.run d).scope.get? "title" = some "Hi" ∧ "title" ∈ p.lasting ∧
      "item" ∈ p.captures ∧ (p.run d).scope.get? "item" = none := by
  have last := bound_names_last
    (node (.element "html") (node (.element "body")
      (node (.element "h1") (node (.capture "title") (node (.literal "Hi") nil nil) nil)
      (node .many (node (.element "p") (node (.capture "item") (node .wildcard nil nil) nil) nil)
      nil)) nil) nil)
    ⟨[.element 0 "html" [] [.element 1 "body" [] [.element 2 "h1" [] [.text 3 "Hi"],
      .element 2 "p" [] [.text 3 "one"]]]]⟩
  refine ⟨_, _, by cbv, by cbv, by cbv, last.1 _ List.mem_cons_self "title" ?_, by decide,
    last.2 "item" (by decide)⟩
  cbv
  exact .head _

end Pattern

/-! ### Names that must be bound -/

namespace Matcher

/-- A valid answer returns a scope that binds these names in its innermost frame. -/
def Binds (names : List String) (m : Matcher) : Prop :=
  ∀ pos s, (m pos s).verdict.isValid → ∀ name ∈ names, (m pos s).scope.innermost.get? name ≠ none

variable {names names' : List String} {child next forbidden : Matcher}

theorem binds_nil (m : Matcher) : Binds [] m := fun _ _ _ _ mem => absurd mem List.not_mem_nil

/-- What the siblings of an element bind comes into the scope of its children, since it stands in
the innermost frame, however many frames were pushed before. -/
theorem binds_element {tag : String} (hc : Binds names child) (hn : Binds names' next) :
    Binds (names ++ names') (element tag child next) := by
  rintro (_ | ⟨⟨place, tag', children⟩ | ⟨place, content⟩, rest⟩) s valid name mem
  · cases valid
  · rw [element] at valid ⊢
    by_cases same : tag' = tag
    · rw [if_pos same] at valid ⊢
      dsimp only at valid ⊢
      by_cases inner : (child children s).verdict.isValid
      · rw [if_pos inner] at valid ⊢
        dsimp only [Scope.mergeInnermost]
        rw [NameMap.get?_merge]
        -- what the children bound is still there, unless the siblings bound it again
        rcases List.mem_append.mp mem with low | late
        · have bound := hc children s inner name low
          simp [bound]
        · have bound := hn rest (child children s).scope valid name late
          simp [bound]
      · rw [if_neg inner] at valid
        exact absurd valid inner
    · rw [if_neg same] at valid
      cases valid
  · cases valid

theorem binds_capture (name : String) (hc : Binds names child) :
    Binds (name :: names) (capture name child) := by
  intro pos s valid n mem
  rw [capture] at valid ⊢
  cases e : (child pos s).verdict with
  | valid text =>
    simp only [Scope.assign, NameMap.get?_insert]
    by_cases same : n = name
    · rw [if_pos same]
      exact Option.some_ne_none _
    · rw [if_neg same]
      exact hc pos s (by rw [e]; rfl) n ((List.mem_cons.mp mem).resolve_left same)
  | leftover x rest => simp [e] at valid
  | invalid => simp [e] at valid

theorem binds_atEnd (hn : Binds names next) {s : Scope} (valid : (atEnd next s).verdict.isValid)
    {name : String} (mem : name ∈ names) : (atEnd next s).scope.innermost.get? name ≠ none := by
  rw [atEnd] at valid ⊢
  by_cases last : (next [] s).verdict.isValid
  · rw [if_pos last]
    exact hn [] s last name mem
  · rw [if_neg last] at valid
    cases valid

theorem binds_wildcard (hn : Binds names next) : Binds names (wildcard next) := by
  intro pos s valid name mem
  induction pos with
  | nil => exact binds_atEnd hn valid mem
  | cons x rest ih =>
    rw [wildcard] at valid ⊢
    by_cases rejected : (next (x :: rest) s).verdict.isInvalid
    · rw [if_pos rejected] at valid ⊢
      exact ih valid
    · rw [if_neg rejected] at valid ⊢
      exact hn (x :: rest) s valid name mem

theorem binds_avoidingUntil (hn : Binds names next) :
    Binds names (avoidingUntil forbidden next) := by
  intro pos s valid name mem
  induction pos with
  | nil => exact binds_atEnd hn valid mem
  | cons x rest ih =>
    rw [avoidingUntil] at valid ⊢
    dsimp only at valid ⊢
    by_cases here : (next (x :: rest) s).verdict.isValid
    · rw [if_pos here]
      exact hn (x :: rest) s here name mem
    · rw [if_neg here] at valid ⊢
      by_cases probe : (forbidden (x :: rest) s).verdict.isInvalid
      · rw [if_pos probe] at valid ⊢
        exact ih valid
      · rw [if_neg probe] at valid
        cases valid

theorem binds_many (hn : Binds names next) : Binds names (many child next) := by
  intro pos s valid name mem
  rw [many] at valid ⊢
  by_cases matched : (rounds child false pos s).matched
  · rw [if_pos matched] at valid ⊢
    exact hn _ s valid name mem
  · rw [if_neg matched] at valid
    cases valid

end Matcher

namespace Pattern

variable {kind : Kind} {child next : Pattern}

/-- Whether there are no alternatives in a pattern. -/
def IsSingle (p : Pattern) : Prop := ∀ x ∈ p.walk 0, x.2 ≠ .either ∧ x.2 ≠ .option

theorem kinds_walk (p : Pattern) :
    ∀ level level', (p.walk level).map (·.2) = (p.walk level').map (·.2) := by
  induction p with
  | nil => exact fun _ _ => rfl
  | node kind child next ihc ihn =>
    intro level level'
    simp only [walk, List.map_cons, List.map_append]
    rw [ihc (level + 1) (level' + 1), ihn level level']

theorem isSingle_node : (node kind child next).IsSingle ↔
    (kind ≠ .either ∧ kind ≠ .option) ∧ child.IsSingle ∧ next.IsSingle := by
  have kinds : ∀ p : Pattern, p.IsSingle ↔
      ∀ k ∈ (p.walk 0).map (·.2), k ≠ .either ∧ k ≠ .option := by
    intro p
    rw [IsSingle, List.forall_mem_map]
  rw [kinds, kinds child, kinds next, walk, List.map_cons, List.map_append,
    kinds_walk child (0 + 1) 0, List.forall_mem_cons, List.forall_mem_append]

/-- Where nothing is ignored, a node that would ignore the rest of its chain is the last one. -/
theorem ignored_node (h : (node kind child next).ignored = []) :
    (kind.ignoresNext → next = nil) ∧ child.ignored = [] ∧ next.ignored = [] := by
  rw [ignored] at h
  obtain ⟨front, later⟩ := List.append_eq_nil_iff.mp h
  obtain ⟨here, low⟩ := List.append_eq_nil_iff.mp front
  refine ⟨fun ignores => ?_, low, later⟩
  cases next with
  | nil => rfl
  | node => simp [kind?, ignores] at here

/-- A valid match has bound the names of the captures that it must try. -/
theorem binds_matcher (p : Pattern) (single : p.IsSingle) (heard : p.ignored = []) :
    Matcher.Binds p.assured p.matcher := by
  induction p with
  | nil => exact Matcher.binds_nil _
  | node kind child next ihc ihn =>
    obtain ⟨⟨notEither, notOption⟩, single', single''⟩ := isSingle_node.mp single
    obtain ⟨last, heard', heard''⟩ := ignored_node heard
    have inner := ihc single' heard'
    have later := ihn single'' heard''
    cases kind with
    | element tag =>
      rw [matcher]
      exact Matcher.binds_element inner later
    | literal content =>
      cases last rfl
      exact Matcher.binds_nil _
    | search regex =>
      cases last rfl
      exact Matcher.binds_nil _
    | wildcard =>
      by_cases final : next = nil
      · subst final
        exact Matcher.binds_nil _
      · rw [matcher_wildcard final]
        exact Matcher.binds_wildcard later
    | wildcardExcept =>
      by_cases final : next = nil
      · subst final
        exact Matcher.binds_nil _
      · by_cases free : child = nil
        · subst free
          cases next with
          | nil => exact absurd rfl final
          | node => rw [matcher]; exact later
        · rw [matcher_avoidingUntil free final]
          exact Matcher.binds_avoidingUntil later
    | many =>
      rw [matcher]
      exact Matcher.binds_many later
    | scope =>
      -- the frame that is pushed stays on the scope that is returned
      cases last rfl
      rw [matcher, assured, assured, List.append_nil]
      exact fun pos s => inner pos s.push
    | capture name =>
      cases last rfl
      rw [matcher, assured, assured, List.append_nil]
      exact Matcher.binds_capture name inner
    | either => exact absurd rfl notEither
    | option => exact absurd rfl notOption

/-- A node of a template asks for nothing below it where this would never be looked at. -/
theorem child_of_ofNode {n : Node} (compiled : ofNode n = .ok (kind, child)) :
    child = nil ∨ kind.ignoresChild = false ∧ ofNodes n.children = .ok child := by
  cases n with
  | text d content =>
    rw [ofNode] at compiled
    cases compiled
    exact .inl rfl
  | element d name attributes children =>
    cases marker : Template.Marker.ofName? name with
    | none =>
      obtain ⟨rfl, inside⟩ := ofNode_element marker compiled
      exact .inr ⟨rfl, inside⟩
    | some m =>
      rw [ofNode, marker] at compiled
      cases m with
      | something | or | regex => exact .inl (child_of_leaf compiled)
      | capture =>
        obtain ⟨captured, -, compiled⟩ := ok_of_bind compiled
        obtain ⟨inner, inside, compiled⟩ := ok_of_bind compiled
        cases compiled
        exact .inr ⟨rfl, inside⟩
      | but | many | scope | either =>
        obtain ⟨inner, inside, compiled⟩ := ok_of_bind compiled
        cases compiled
        exact .inr ⟨rfl, inside⟩

theorem assured_of_ofNodes (row : List Node) : ∀ p, ofNodes row = .ok p →
    p.assured = p.lasting := by
  induction row using Node.row_induction with
  | nil =>
    intro p compiled
    rw [ofNodes] at compiled
    cases compiled
    rfl
  | cons n rest ihc ih =>
    intro p compiled
    by_cases blank : n.isBlank
    · rw [ofNodes_cons_of_blank blank] at compiled
      exact ih p compiled
    · obtain ⟨kind, child, next, here, behind, rfl⟩ :=
        ofNodes_cons_of_visible (by simpa using blank) compiled
      rw [assured, lasting, ih next behind]
      rcases child_of_ofNode here with rfl | ⟨looks, inside⟩
      · simp [assured, lasting]
      · rw [looks, Bool.or_false, ihc child inside]

/-- In a template, no capture stands where it is never looked at. -/
theorem assured_of_compile {template : String} {p : Pattern}
    (compiled : Template.compile template = .ok p) : p.assured = p.lasting := by
  obtain ⟨markup, d, -, -, mirrored⟩ := ofNodes_of_compile compiled
  exact assured_of_ofNodes d.top p mirrored

/-- **No capture is missing after a valid run**, if the pattern has no alternatives and no node
comes after one that would ignore it: every name of a capture that stands neither in a repetition
nor in a forbidden pattern, nor below a node that never looks there, is bound. -/
theorem valid_binds_all (p : Pattern) (d : Document) (single : p.IsSingle) (heard : p.ignored = [])
    (valid : (p.run d).verdict.isValid) :
    ∀ name ∈ p.assured, ((p.run d).scope.get? name).isSome := by
  intro name mem
  have bound : (p.run d).scope.innermost.get? name ≠ none :=
    p.binds_matcher single heard d.outline .fresh valid name mem
  rw [Scope.get?_eq, Option.isSome_or, Option.isSome_iff_ne_none.mpr bound, Bool.true_or]

/-- A capture behind anything at all is bound, to nothing where nothing is left to match. -/
theorem valid_binds_all_last :
    ∃ p d, Template.compile "\x7b...\x7d\x7b$rest\x7d\x7b...\x7d\x7b/$rest\x7d" = .ok p ∧
      Document.read "<p>a</p>" .lenient = .ok d ∧ (p.run d).verdict.isValid ∧
      ((p.run d).scope.get? "rest").isSome :=
  ⟨_, _, by cbv, by cbv, by cbv,
    valid_binds_all _ _ (by simp [IsSingle, walk]) (by cbv) (by cbv) "rest" (by decide)⟩

/-- A capture below a node that stands for anything is never tried. -/
theorem valid_unbound_below_wildcard :
    ∃ (p : Pattern) (d : Document), Document.read "<p></p>" .lenient = .ok d ∧ p.IsSingle ∧ p.ignored = [] ∧
      "x" ∈ p.lasting ∧ (p.run d).verdict.isValid ∧ (p.run d).scope.get? "x" = none :=
  ⟨node .wildcard (node (.capture "x") nil nil) nil, _, by cbv, by simp [IsSingle, walk], by cbv,
    by decide, by cbv, by cbv⟩

end Pattern

end Stencil
