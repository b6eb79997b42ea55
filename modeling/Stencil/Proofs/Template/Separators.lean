import Stencil.Proofs.Template.Nested
import Stencil.Proofs.Template.Operators

/-!
# Template — separators

Where the separators of alternatives stand in a compiled pattern (`Template.separator_inside`). The
nesting of operators is checked apart from that of tags, so that a separator stands below an
alternative, but not always directly below it: an element that is opened between the two, and not
closed again, stands around the separator (`Template.separator_inside_element`).
-/

namespace Stencil

open Template Markup
open Stencil.Bracket (WellNested Leaves track track_append track_append_of_wellNested
  track_closing_eq_some_iff track_of_leaves)

/-- The reserved element that an event is a tag of. -/
def Markup.Event.marker? : Event → Option Marker
  | start name _ | selfClosed name _ | finish name => Marker.ofName? name
  | text _ => none

namespace Template

variable {s : List Char} {around left : List String} {events : List Event} {e : Event} {t : Token}
  {ts : List Token}

/-! ### Rows of events -/

theorem isVoid_name (m : Marker) : isVoid m.name = false := by
  cases m <;> decide

/-- What is open behind an event is what its tag leaves open. -/
theorem track_tags_cons (h : track around (tags (e :: events)) = some left) :
    track (e.behind around) (tags events) = some left := by
  cases e with
  | start name attributes =>
    by_cases void : isVoid name
    · simpa [tags, Event.bracket?, Event.behind, void] using h
    · simpa [tags, Event.bracket?, Event.behind, void, track] using h
  | finish name =>
    by_cases void : isVoid name
    · simpa [tags, Event.bracket?, Event.behind, void] using h
    · cases around with
      | nil => simp [tags, Event.bracket?, void, track] at h
      | cons innermost outer =>
        by_cases same : innermost = name
        · simpa [tags, Event.bracket?, Event.behind, void, track, same] using h
        · simp [tags, Event.bracket?, void, track, same] at h
  | selfClosed name attributes => exact h
  | text content => exact h

theorem enclosing_of_track (h : track around (tags events) = some left) :
    enclosing around events = left := by
  induction events generalizing around with
  | nil => exact Option.some.inj h
  | cons e events ih => exact ih (track_tags_cons h)

/-- Tags that are not reserved leave the reserved elements open that were open before them. -/
theorem reserved_of_track (plain : ∀ e ∈ events, e.marker? = none)
    (h : track around (tags events) = some left) : reserved left = reserved around := by
  induction events generalizing around with
  | nil => rw [Option.some.inj h]
  | cons e events ih =>
    obtain ⟨here, later⟩ := List.forall_mem_cons.mp plain
    rw [ih later (track_tags_cons h)]
    cases e with
    | start name attributes =>
      rw [Event.behind]
      split
      · rfl
      · have plain : Marker.ofName? name = none := here
        exact List.filterMap_cons_none plain
    | finish name =>
      rw [Event.behind]
      split
      · rfl
      · next solid =>
        -- the element that is closed is the innermost one
        cases around with
        | nil => rfl
        | cons innermost outer =>
          obtain rfl : innermost = name := by
            by_contra other
            simp [tags, Event.bracket?, solid, track, other] at h
          have plain : Marker.ofName? innermost = none := here
          exact (List.filterMap_cons_none plain).symm
    | selfClosed name attributes => rfl
    | text content => rfl

theorem placements_ne (m : Marker) (other : ∀ e ∈ events, e.marker? ≠ some m) :
    ∀ around, ∀ pl ∈ placements around events, pl.marker ≠ m := by
  induction events with
  | nil => exact fun _ _ mem => nomatch mem
  | cons e events ih =>
    obtain ⟨here, later⟩ := List.forall_mem_cons.mp other
    intro around pl mem same
    rw [placements, List.mem_append] at mem
    rcases mem with mem | mem
    · cases e with
      | start name attributes | selfClosed name attributes =>
        obtain ⟨found, reserved, rfl⟩ := List.mem_map.mp mem
        exact here ((Option.mem_toList.mp reserved).trans (congrArg some same))
      | finish name | text content => cases mem
    · exact ih later _ pl mem same

/-- A byte order mark is part of a text at most. -/
theorem said_dropMark (around : List String) (s : List Char) :
    placements around (said (dropMark s)) = placements around (said s) ∧
      tags (said (dropMark s)) = tags (said s) := by
  by_cases mark : s.head? = some '\ufeff'
  · obtain ⟨rest, rfl⟩ := List.head?_eq_some_iff.mp mark
    have marked : said ('\ufeff' :: rest) =
        .text (String.ofList (decodeReferences ('\ufeff' :: rest.takeWhile inText))) ::
          said (rest.dropWhile inText) := by
      rw [said, Pieces.ofSource_text (by decide)]
      rfl
    rw [marked]
    change placements around (said rest) = placements around (said (rest.dropWhile inText)) ∧
      tags (said rest) = tags (said (rest.dropWhile inText))
    cases rest with
    | nil => exact ⟨rfl, rfl⟩
    | cons c rest =>
      by_cases tag : c = '<'
      · rw [List.dropWhile_cons_of_neg (by simp [inText, tag])]
        exact ⟨rfl, rfl⟩
      · rw [List.dropWhile_cons_of_pos (by simp [inText, tag]), said, Pieces.ofSource_text tag]
        exact ⟨rfl, rfl⟩
  · rw [dropMark_of_head? mark]
    exact ⟨rfl, rfl⟩

/-! ### Texts between operators -/

/-- A text that is read to its end, with no separator in it. -/
structure Separate (text : List Char) : Prop where
  whole : (Pieces.ofSource text).fault = none
  noSeparator : ∀ e ∈ said text, e.marker? ≠ some .or

/-- A text that is read to its end, with no tag of a reserved element in it. -/
structure Ordinary (text : List Char) : Prop where
  whole : (Pieces.ofSource text).fault = none
  unreserved : ∀ e ∈ said text, e.marker? = none

/-- A text that is read to its end, with no separator in it, and that closes what it opens. -/
structure Balanced (text : List Char) : Prop extends Separate text where
  nested : WellNested (tags (said text))

theorem Ordinary.separate {text : List Char} (h : Ordinary text) : Separate text :=
  ⟨h.whole, fun e mem => by rw [h.unreserved e mem]; nofun⟩

theorem exists_event (h : ∀ c, t ≠ .char c) : ∃ e, t.event? = some e := by
  cases t with
  | char c => exact absurd rfl (h c)
  | something | option | opening | closing | regex => exact ⟨_, rfl⟩

theorem exists_of_mem {α β : Type} {R : α → β → Prop} {as : List α} {bs : List β} {a : α}
    (h : List.Forall₂ R as bs) (mem : a ∈ as) : ∃ b ∈ bs, R a b := by
  induction h with
  | nil => cases mem
  | cons here _ ih =>
    rcases List.mem_cons.mp mem with rfl | mem
    · exact ⟨_, List.mem_cons_self, here⟩
    · obtain ⟨b, there, stands⟩ := ih mem
      exact ⟨b, List.mem_cons_of_mem _ there, stands⟩

theorem eq_either_of_marker? {kind : Kind} (h : kind.marker? = some .either) : kind = .either := by
  cases kind with
  | either => rfl
  | _ => cases h

/-- A row of tokens whose operators stand between such texts. -/
inductive Apart (P : List Char → Prop) : List Token → Prop
  | text {text : List Char} : P text → Apart P (text.map .char)
  | operator {text : List Char} {t : Token} {ts : List Token} : P text → (∀ c, t ≠ .char c) →
      Apart P ts → Apart P (text.map .char ++ t :: ts)

/-- Between the start of an alternative and a separator of it, tags close each other, those of
operators included. -/
def BranchesClosed (ts : List Token) : Prop :=
  ∀ front inside rest, ts = front ++ .opening .either :: (inside ++ .option :: rest) →
    WellNested (brackets inside) → WellNested (tags (said (inside.flatMap Token.markup)))

variable {P Q : List Char → Prop} {I : List String → List Block → Prop}

theorem Apart.mono (imp : ∀ text, P text → Q text) (apart : Apart P ts) : Apart Q ts := by
  induction apart with
  | text h => exact .text (imp _ h)
  | operator h operator _ ih => exact .operator (imp _ h) operator ih

/-- In front of an operator and behind it, the operators stand between such texts, too. -/
theorem Apart.split (apart : Apart P ts) (event : t.event? = some e) :
    ∀ {before rest}, ts = before ++ t :: rest → Apart P before ∧ Apart P rest := by
  have noText {text : List Char} {before rest : List Token}
      (same : text.map Token.char = before ++ t :: rest) : False := by
    have mem : t ∈ text.map Token.char := by simp [same]
    obtain ⟨c, -, rfl⟩ := List.mem_map.mp mem
    cases event
  induction apart with
  | text h => exact fun same => (noText same).elim
  | @operator text u ts h other apart ih =>
    intro before rest same
    rcases List.append_eq_append_iff.mp same with
      ⟨_ | ⟨v, more⟩, front, back⟩ | ⟨_ | ⟨v, more⟩, front, back⟩
    · obtain ⟨rfl, rfl⟩ := List.cons.inj back
      rw [front, List.append_nil]
      exact ⟨.text h, apart⟩
    · obtain ⟨rfl, rfl⟩ := List.cons.inj back
      obtain ⟨left, right⟩ := ih rfl
      rw [front]
      exact ⟨.operator h other left, right⟩
    · obtain ⟨rfl, rfl⟩ := List.cons.inj back
      rw [List.append_nil] at front
      rw [← front]
      exact ⟨.text h, apart⟩
    · obtain ⟨rfl, -⟩ := List.cons.inj back
      exact (noText front).elim

theorem Apart.whole (apart : Apart Separate ts) :
    (Pieces.ofSource (ts.flatMap Token.markup)).fault = none := by
  induction apart with
  | text h =>
    rw [flatMap_markup_chars]
    exact h.whole
  | operator h operator _ ih =>
    obtain ⟨e, event⟩ := exists_event operator
    rw [List.flatMap_append, flatMap_markup_chars, List.flatMap_cons]
    exact (said_append_token event h.whole _).2.trans ih

/-- What tokens say in front of an operator, the operator and the tokens behind it. -/
theorem Apart.said_append (apart : Apart Separate ts) (event : t.event? = some e)
    (later : List Token) :
    said ((ts ++ t :: later).flatMap Token.markup) =
      said (ts.flatMap Token.markup) ++ e :: said (later.flatMap Token.markup) := by
  rw [List.flatMap_append, List.flatMap_cons]
  exact (said_append_token event apart.whole _).1

/-! ### Where separators stand -/

theorem eq_option_of_placed {pl : Placement} (event : t.event? = some e)
    (mem : pl ∈ e.placed around) (separator : pl.marker = .or) :
    t = .option ∧ pl.around = around := by
  have placed {m : Marker} {attributes : List Attribute}
      (mem : pl ∈ placedAt around m.name attributes) : m = .or ∧ pl.around = around := by
    rw [placedAt, m.ofName?_name] at mem
    obtain rfl := List.mem_singleton.mp mem
    exact ⟨separator, rfl⟩
  cases t with
  | char c => cases event
  | option =>
    cases event
    exact ⟨rfl, (placed mem).2⟩
  | something | regex =>
    cases event
    cases (placed mem).1
  | opening b =>
    cases event
    have same := (placed mem).1
    cases b <;> cases same
  | closing b =>
    cases event
    exact absurd mem List.not_mem_nil

/-- A separator in the markup comes from one among the tokens. -/
theorem Apart.exists_before (apart : Apart Separate ts) : ∀ {around : List String} {pl : Placement},
    pl ∈ placements around (said (ts.flatMap Token.markup)) → pl.marker = .or →
      ∃ before rest, ts = before ++ .option :: rest ∧
        pl.around = enclosing around (said (before.flatMap Token.markup)) := by
  induction apart with
  | @text text h =>
    intro around pl mem separator
    rw [flatMap_markup_chars] at mem
    exact absurd separator (placements_ne .or h.noSeparator around pl mem)
  | @operator text t ts h operator _ ih =>
    intro around pl mem separator
    obtain ⟨e, event⟩ := exists_event operator
    have front : Apart Separate (text.map .char) := .text h
    rw [front.said_append event, flatMap_markup_chars, placements_append, placements,
      List.mem_append, List.mem_append] at mem
    rcases mem with mem | mem | mem
    · exact absurd separator (placements_ne .or h.noSeparator around pl mem)
    · obtain ⟨rfl, same⟩ := eq_option_of_placed event mem separator
      exact ⟨_, ts, rfl, by rw [same, flatMap_markup_chars]⟩
    · obtain ⟨before, rest, rfl, same⟩ := ih mem separator
      refine ⟨text.map .char ++ t :: before, rest, by simp, ?_⟩
      rw [same, front.said_append event, flatMap_markup_chars, enclosing, enclosing, enclosing,
        List.foldl_append, List.foldl_cons]

/-- What is open in front of a token was opened by one of the tokens before it, and what was opened
since is closed. -/
theorem exists_opening {before : List Token} {b : Block} {outer : List Block}
    (h : Leaves (brackets before) (b :: outer)) :
    ∃ front inside, before = front ++ .opening b :: inside ∧ WellNested (brackets inside) := by
  generalize split : brackets before = row at h
  cases h with
  | more _ nested =>
    obtain ⟨front, later, rfl, -, split⟩ := List.filterMap_eq_append_iff.mp split
    obtain ⟨between, t, inside, rfl, silent, bracket, rfl⟩ := List.filterMap_eq_cons_iff.mp split
    obtain rfl : t = .opening b := by
      cases t with
      | opening b' =>
        cases bracket
        rfl
      | _ => cases bracket
    exact ⟨front ++ between, inside, by simp, nested⟩

/-- A separator of a compiled pattern is one of the template's tokens: the operators in front of it
leave an alternative open, and what is above it is what their tags leave open. -/
theorem exists_separator {template : String} {p : Pattern} {above : List Kind}
    (compiled : compile template = .ok p) (mem : (above, .option) ∈ p.operators [])
    (apart : Apart Separate (Tokens.ofSource template.toList).tokens) :
    ∃ before rest outer around,
      (Tokens.ofSource template.toList).tokens = before ++ .option :: rest ∧
      Leaves (brackets before) (.either :: outer) ∧
      track [] (tags (said (before.flatMap Token.markup))) = some around ∧
      (above.filterMap Kind.marker?, above.head?.bind Kind.marker?) = view around ∧
      ∀ k ∈ above, k.marker? = none → ∃ tag, k = .element tag := by
  obtain ⟨markup, expanded, nested, stands⟩ := operators_of_compile compiled
  obtain ⟨text, found, rfl⟩ := ok_of_map expanded
  obtain ⟨-, inPlace, rfl⟩ := expand_tokens_iff.mp found
  rw [String.toList_ofList] at nested stands
  rw [(said_dropMark [] _).1] at stands
  rw [(said_dropMark [] _).2] at nested
  obtain ⟨v, shown, shows⟩ := exists_of_mem stands mem
  obtain ⟨pl, placed, rfl⟩ := List.mem_map.mp shown
  obtain ⟨before, rest, cut, same⟩ := apart.exists_before placed
    (Option.some.inj (marker?_of_asked shows.asked)).symm
  obtain ⟨outer, leaves⟩ := inPlace.inPlace before .option rest cut
  -- the whole markup is nested, so that the tags in front of the separator are
  have tracked := track_of_leaves (.nothing nested)
  obtain ⟨front, -⟩ := apart.split rfl cut
  rw [cut, front.said_append rfl, tags_append, track_append] at tracked
  obtain ⟨around, tracked, -⟩ := Option.bind_eq_some_iff.mp tracked
  rw [enclosing_of_track tracked] at same
  exact ⟨before, rest, outer, around, cut, leaves, tracked, same ▸ shows.above, shows.elements⟩

/-! ### What is around a separator -/

/-- A relation between the elements that are open and the operators that are, which texts and
operators keep. -/
structure Kept (P : List Char → Prop) (I : List String → List Block → Prop) : Prop where
  text {text : List Char} {around left : List String} {open_ : List Block} : P text →
    I around open_ → track around (tags (said text)) = some left → I left open_
  opening {around : List String} {open_ : List Block} (b : Block) : I around open_ →
    I (b.marker.name :: around) (b :: open_)
  closing {around : List String} {open_ : List Block} {b : Block} :
    I (b.marker.name :: around) (b :: open_) → I around open_

/-- An operator keeps the relation. -/
theorem Kept.operator {open_ last : List Block} (kept : Kept P I) (event : t.event? = some e)
    (here : I around open_) (opened : track open_ (brackets (t :: ts)) = some last)
    (tracked : track around (tags (e :: events)) = some left) :
    ∃ behind, I (e.behind around) behind ∧ track behind (brackets ts) = some last := by
  cases t with
  | char c => cases event
  | something | option | regex =>
    cases event
    exact ⟨open_, here, opened⟩
  | opening b =>
    cases event
    rw [Event.behind, isVoid_name, if_neg Bool.false_ne_true]
    exact ⟨b :: open_, kept.opening b here, opened⟩
  | closing b =>
    cases event
    rw [Event.behind, isVoid_name, if_neg Bool.false_ne_true]
    -- the end tag closes the element of this operator, which is the innermost one
    obtain ⟨outer, rfl, further⟩ := track_closing_eq_some_iff.mp opened
    have tags_cons : tags (.finish b.marker.name :: events) =
        .closing b.marker.name :: tags events := by
      simp [tags, Event.bracket?, isVoid_name]
    rw [tags_cons] at tracked
    obtain ⟨around', rfl, -⟩ := track_closing_eq_some_iff.mp tracked
    exact ⟨outer, kept.closing here, further⟩

/-- **What texts and operators keep holds behind a row of tokens.** -/
theorem Kept.run (kept : Kept P I) (separate : ∀ text, P text → Separate text)
    (apart : Apart P ts) : ∀ {around left open_ last}, I around open_ →
      track open_ (brackets ts) = some last →
      track around (tags (said (ts.flatMap Token.markup))) = some left → I left last := by
  have silent (text : List Char) : brackets (text.map .char) = [] := by
    simp [brackets, Token.bracket?]
  induction apart with
  | @text text h =>
    intro around left open_ last here opened tracked
    rw [silent] at opened
    cases opened
    rw [flatMap_markup_chars] at tracked
    exact kept.text h here tracked
  | @operator text t ts h operator _ ih =>
    intro around left open_ last here opened tracked
    obtain ⟨e, event⟩ := exists_event operator
    have front : Apart Separate (text.map .char) := .text (separate text h)
    rw [front.said_append event, flatMap_markup_chars, tags_append, track_append] at tracked
    obtain ⟨between, textual, tracked⟩ := Option.bind_eq_some_iff.mp tracked
    rw [brackets_append, silent, List.nil_append] at opened
    obtain ⟨behind, inside, opened⟩ :=
      kept.operator event (kept.text h here textual) opened tracked
    exact ih inside opened (track_tags_cons tracked)

/-- Between texts without reserved elements, those that are open are those of the operators. -/
theorem kept_reserved :
    Kept Ordinary fun around open_ => reserved around = open_.map Block.marker where
  text h here tracked := (reserved_of_track h.unreserved tracked).trans here
  opening b here := by
    rw [reserved, List.filterMap_cons_some b.marker.ofName?_name, ← reserved, here, List.map_cons]
  closing {_ _ b} here := by
    rw [reserved, List.filterMap_cons_some b.marker.ofName?_name, List.map_cons] at here
    exact (List.cons.inj here).2

/-- Between texts that close what they open, no other elements are open than those of the
operators. -/
theorem kept_names : Kept Balanced fun around open_ => around = open_.map (·.marker.name) where
  text {_ around _ _} h here tracked := by
    have same := track_append_of_wellNested h.nested around []
    rw [List.append_nil, tracked, track] at same
    exact (Option.some.inj same).trans here
  opening b here := by rw [here, List.map_cons]
  closing here := (List.cons.inj here).2

/-- A separator stands directly below an alternative where the innermost element is one. -/
theorem exists_eq_either_cons {above : List Kind} {around : List String}
    (same : (above.filterMap Kind.marker?, above.head?.bind Kind.marker?) =
      view (Block.either.marker.name :: around)) : ∃ outer, above = .either :: outer := by
  have direct : above.head?.bind Kind.marker? = some .either := congrArg Prod.snd same
  obtain ⟨kind, first, stands⟩ := Option.bind_eq_some_iff.mp direct
  obtain rfl := eq_either_of_marker? stands
  obtain ⟨outer, rfl⟩ := List.head?_eq_some_iff.mp first
  exact ⟨outer, rfl⟩

/-- **A separator stands below an alternative, with nothing but elements between them**, where all
operators of a template stand between texts and whole tags, and no reserved element is written by
hand. It stands directly below the alternative if the tags between the start of the alternative and
the separator close each other, and no separator is written by hand; so it does if each text between
two operators closes the elements that it opens. -/
theorem separator_inside {template : String} {p : Pattern} (compiled : compile template = .ok p) :
    (Apart Ordinary (Tokens.ofSource template.toList).tokens →
      ∀ above, (above, .option) ∈ p.operators [] →
        ∃ elements outer, above = elements ++ .either :: outer ∧
          ∀ k ∈ elements, ∃ tag, k = .element tag) ∧
    (Apart Separate (Tokens.ofSource template.toList).tokens →
      BranchesClosed (Tokens.ofSource template.toList).tokens →
        ∀ above, (above, .option) ∈ p.operators [] → ∃ outer, above = .either :: outer) ∧
    (Apart Balanced (Tokens.ofSource template.toList).tokens →
      ∀ above, (above, .option) ∈ p.operators [] → ∃ outer, above = .either :: outer) := by
  refine ⟨fun apart above mem => ?_, fun apart closed above mem => ?_, fun apart above mem => ?_⟩
  · have separate : ∀ text, Ordinary text → Separate text := fun _ h => h.separate
    obtain ⟨before, rest, outer, around, cut, leaves, tracked, same, elements⟩ :=
      exists_separator compiled mem (apart.mono separate)
    have inside := kept_reserved.run separate (apart.split rfl cut).1 rfl (track_of_leaves leaves)
      tracked
    have markers : above.filterMap Kind.marker? = .either :: outer.map Block.marker :=
      (congrArg Prod.fst same).trans inside
    obtain ⟨between, kind, further, rfl, plain, stands, -⟩ := List.filterMap_eq_cons_iff.mp markers
    obtain rfl := eq_either_of_marker? stands
    refine ⟨between, further, rfl, fun k mem => elements k ?_ (plain k mem)⟩
    exact List.mem_append_left _ mem
  · obtain ⟨before, rest, outer, around, cut, leaves, tracked, same, -⟩ :=
      exists_separator compiled mem apart
    obtain ⟨front, inside, rfl, nested⟩ := exists_opening leaves
    have tagsNested := closed front inside rest (by simpa using cut) nested
    obtain ⟨front_apart, -⟩ := (apart.split rfl cut).1.split rfl rfl
    rw [front_apart.said_append rfl, tags_append, track_append] at tracked
    obtain ⟨further, -, tracked⟩ := Option.bind_eq_some_iff.mp tracked
    -- the element of the alternative is opened, and the tags behind it leave it open
    have opened : track (Block.either.marker.name :: further)
        (tags (said (inside.flatMap Token.markup)) ++ []) = some around := by
      rw [List.append_nil]
      exact tracked
    rw [track_append_of_wellNested tagsNested] at opened
    cases opened
    exact exists_eq_either_cons same
  · have separate : ∀ text, Balanced text → Separate text := fun _ h => h.toSeparate
    obtain ⟨before, rest, outer, around, cut, leaves, tracked, same, -⟩ :=
      exists_separator compiled mem (apart.mono separate)
    have inside := kept_names.run separate (apart.split rfl cut).1 rfl (track_of_leaves leaves)
      tracked
    rw [inside] at same
    exact exists_eq_either_cons same

/-- A separator behind an element with an operator in it, in an alternative within an element; and a
separator between two elements. -/
theorem separator_inside_between :
    (∃ p, compile ("<div>\x7beither\x7d<p>\x7b...\x7d</p>" ++
        "\x7bor\x7d<b></b>\x7b/either\x7d</div>") = .ok p ∧
      ∃ above, (above, .option) ∈ p.operators [] ∧ .element "div" ∈ above ∧
        (∃ elements outer, above = elements ++ .either :: outer ∧
          ∀ k ∈ elements, ∃ tag, k = .element tag) ∧
        ∃ outer, above = .either :: outer) ∧
    ∃ p, compile "\x7beither\x7d<p>a</p>\x7bor\x7d<b></b>\x7b/either\x7d" = .ok p ∧
      ∃ above, (above, .option) ∈ p.operators [] ∧ ∃ outer, above = .either :: outer := by
  refine ⟨?_, ?_⟩
  · let around : List Kind := [.element "div", .element "body", .element "html"]
    obtain ⟨p, compiled, separators⟩ : ∃ p, compile ("<div>\x7beither\x7d<p>\x7b...\x7d</p>" ++
        "\x7bor\x7d<b></b>\x7b/either\x7d</div>") = .ok p ∧
        p.operators [] = [(around, .either), (.element "p" :: .either :: around, .wildcard),
          (.either :: around, .option)] := ⟨_, by cbv, by unfold around; cbv⟩
    have mem : (.either :: around, .option) ∈ p.operators [] := by simp [separators]
    have cut : (Tokens.ofSource ("<div>\x7beither\x7d<p>\x7b...\x7d</p>" ++
          "\x7bor\x7d<b></b>\x7b/either\x7d</div>").toList).tokens =
        "<div>".toList.map .char ++ .opening .either :: ("<p>".toList.map .char ++ .something ::
          ("</p>".toList.map .char ++ .option :: ("<b></b>".toList.map .char ++
            .closing .either :: "</div>".toList.map .char))) := by cbv
    have ordinary : ∀ text ∈ ["<div>", "<p>", "</p>", "<b></b>", "</div>"],
        Ordinary text.toList := by
      have whole : ∀ text ∈ ["<div>", "<p>", "</p>", "<b></b>", "</div>"],
          (Pieces.ofSource text.toList).fault = none := by decide +kernel
      have unreserved : ∀ text ∈ ["<div>", "<p>", "</p>", "<b></b>", "</div>"],
          ∀ e ∈ said text.toList, e.marker? = none := by decide +kernel
      exact fun text mem => ⟨whole text mem, unreserved text mem⟩
    have apart : Apart Ordinary (Tokens.ofSource ("<div>\x7beither\x7d<p>\x7b...\x7d</p>" ++
        "\x7bor\x7d<b></b>\x7b/either\x7d</div>").toList).tokens := by
      rw [cut]
      exact .operator (ordinary _ (by decide)) (by simp) (.operator (ordinary _ (by decide)) (by simp)
        (.operator (ordinary _ (by decide)) (by simp) (.operator (ordinary _ (by decide)) (by simp)
          (.text (ordinary _ (by decide))))))
    have closed : BranchesClosed (Tokens.ofSource ("<div>\x7beither\x7d<p>\x7b...\x7d</p>" ++
        "\x7bor\x7d<b></b>\x7b/either\x7d</div>").toList).tokens := by
      -- there is one start of an alternative and one separator
      intro front inside rest split _
      rw [cut] at split
      obtain ⟨-, -, split⟩ := (List.append_cons_inj_of_notMem (by decide) (by decide)).mp split
      rw [← List.cons_append, ← List.append_assoc] at split
      obtain ⟨rfl, -, -⟩ := (List.append_cons_inj_of_notMem (by decide) (by decide)).mp split
      have written : tags (said (("<p>".toList.map Token.char ++ Token.something ::
          "</p>".toList.map Token.char).flatMap Token.markup)) = [.opening "p", .closing "p"] := by
        cbv
      rw [written]
      exact .pair .nil .nil
    exact ⟨p, compiled, _, mem, by simp [around], (separator_inside compiled).1 apart _ mem,
      (separator_inside compiled).2.1 (apart.mono fun _ h => h.separate) closed _ mem⟩
  · obtain ⟨p, compiled, separators⟩ : ∃ p,
        compile "\x7beither\x7d<p>a</p>\x7bor\x7d<b></b>\x7b/either\x7d" = .ok p ∧
        p.operators [] = [([.element "body", .element "html"], .either),
          ([.either, .element "body", .element "html"], .option)] := ⟨_, by cbv, by cbv⟩
    have mem : ([.either, .element "body", .element "html"], .option) ∈ p.operators [] := by
      simp [separators]
    have cut : (Tokens.ofSource
          "\x7beither\x7d<p>a</p>\x7bor\x7d<b></b>\x7b/either\x7d".toList).tokens =
        "".toList.map .char ++ .opening .either :: ("<p>a</p>".toList.map .char ++ .option ::
          ("<b></b>".toList.map .char ++ .closing .either :: "".toList.map .char)) := by cbv
    have separate : ∀ text ∈ ["", "<p>a</p>", "<b></b>"], Separate text.toList := by
      have whole : ∀ text ∈ ["", "<p>a</p>", "<b></b>"],
          (Pieces.ofSource text.toList).fault = none := by decide +kernel
      have noSeparator : ∀ text ∈ ["", "<p>a</p>", "<b></b>"],
          ∀ e ∈ said text.toList, e.marker? ≠ some .or := by decide +kernel
      exact fun text mem => ⟨whole text mem, noSeparator text mem⟩
    have nothing : tags (said "".toList) = [] := by cbv
    have first : tags (said "<p>a</p>".toList) = [.opening "p", .closing "p"] := by cbv
    have second : tags (said "<b></b>".toList) = [.opening "b", .closing "b"] := by cbv
    have apart : Apart Balanced (Tokens.ofSource
        "\x7beither\x7d<p>a</p>\x7bor\x7d<b></b>\x7b/either\x7d".toList).tokens := by
      rw [cut]
      refine .operator ⟨separate _ (by decide), ?_⟩ (by simp) (.operator
        ⟨separate _ (by decide), ?_⟩ (by simp) (.operator ⟨separate _ (by decide), ?_⟩ (by simp)
          (.text ⟨separate _ (by decide), ?_⟩)))
      · exact nothing ▸ .nil
      · exact first ▸ .pair .nil .nil
      · exact second ▸ .pair .nil .nil
      · exact nothing ▸ .nil
    exact ⟨p, compiled, _, mem, (separator_inside compiled).2.2 apart _ mem⟩

/-- A separator in an element that is opened in front of it and closed behind it. -/
theorem separator_inside_element :
    ∃ p, compile "\x7beither\x7d<p>\x7bor\x7d</p>\x7b/either\x7d" = .ok p ∧
      ∃ above, (above, .option) ∈ p.operators [] ∧ above.head? = some (.element "p") := by
  obtain ⟨p, compiled, separators⟩ : ∃ p,
      compile "\x7beither\x7d<p>\x7bor\x7d</p>\x7b/either\x7d" = .ok p ∧
      p.operators [] = [([.element "body", .element "html"], .either),
        ([.element "p", .either, .element "body", .element "html"], .option)] :=
    ⟨_, by cbv, by cbv⟩
  exact ⟨p, compiled, _, separators ▸ List.mem_cons_of_mem _ List.mem_cons_self, rfl⟩

end Template

end Stencil
