import Mathlib
import Stencil.CommandLine.Ending
import Stencil.Proofs.Capture.NameMap
import Stencil.Proofs.Matching.Captures
import Stencil.Proofs.Matching.Summary
import Stencil.Proofs.Success

/-!
# CommandLine — what is printed

A run of the program makes a match if nothing is wrong with the template and the document, and else
exits with code 1 and prints nothing. Of a match it prints a line for each capture that was bound
and is asked for, and the line that sums it up, which does not depend on what is asked for
(`CommandLine.run_prints`). Which encodings there are is left to a library of them.
-/

namespace Stencil

/-- The line that is printed of a capture. -/
def Captured.line (c : Captured) : String := c.name ++ ": " ++ c.value ++ "\n"

namespace CommandLine

/-- What can be read, from where. -/
abbrev Files := Source → Except FileFault (List UInt8)

/-- How a run of the program ends, where what can be read does not change. -/
def runOn (lib : Charset.Library) (files : Files) (words : List String) : Ending :=
  Id.run (runWith lib words (pure ∘ files))

variable {lib : Charset.Library} {files : Files} {words : List String} {o o' : Options}
  {p q : Pattern} {d e : Document}
  {names : List String} {name : String}

/-! ### Handlers that print -/

/-- What the handler for a name prints. -/
def printed (name : String) (scope : Scope) : String :=
  name ++ ": " ++ (scope.get? name).getD "" ++ "\n"

/-- A name has the handler that was registered for it, which is the same however often it was. -/
theorem get?_foldl_register (names : List String) (h : Dispatcher String) :
    (names.foldl (fun d n => d.register n (printed n)) h).handlers.get? name =
      if name ∈ names then some (printed name) else h.handlers.get? name := by
  induction names generalizing h with
  | nil => simp
  | cons n rest ih =>
    rw [List.foldl_cons, ih, Dispatcher.register, NameMap.get?_insert]
    by_cases late : name ∈ rest
    · simp [late]
    · by_cases same : name = n
      · simp [same]
      · simp [late, same]

theorem dispatch_printers (names : List String) (name : String) (scope : Scope) :
    (printers names).dispatch name scope =
      if name ∈ names then some (printed name scope) else none := by
  have found : (printers names).handlers.get? name =
      if name ∈ names then some (printed name) else none := get?_foldl_register names .empty
  rw [Dispatcher.dispatch, found]
  split
  · rfl
  · rfl

/-- **The handlers print a line for each capture that was bound and has one of the names.** -/
theorem dispatch_of_told {row : Position} {a : Attempt} (told : a.Told row) (names : List String) :
    a.dispatch (printers names) =
      (a.captures.filter fun c => c.name ∈ names).map Captured.line := by
  have answers : ∀ c ∈ a.captures, (printers names).dispatch c.name c.scope =
      if c.name ∈ names then some c.line else none := by
    intro c mem
    rw [dispatch_printers, printed, told.get?_of_mem mem]
    rfl
  rw [a.dispatch_eq, List.filterMap_congr answers]
  induction a.captures with
  | nil => rfl
  | cons c later ih =>
    by_cases asked : c.name ∈ names
    · simp [asked, ih]
    · simp [asked, ih]

/-! ### Captures that are asked for -/

/-- The captures that are printed: of a run that is not to be quiet those that are named, or all of
the template if none is named. -/
inductive Options.Prints (o : Options) (p : Pattern) (name : String) : Prop
  | all : o.quiet = false → o.names = [] → name ∈ p.captureNames → Prints o p name
  | named : o.quiet = false → name ∈ o.names → Prints o p name

theorem mem_selected_iff : name ∈ o.selected p ↔ o.Prints p name := by
  rw [Options.selected]
  constructor
  · intro mem
    split at mem
    · cases mem
    · next loud =>
      have loud : o.quiet = false := by simpa using loud
      split at mem
      · next none => exact .all loud (List.isEmpty_iff.mp none) mem
      · exact .named loud mem
  · rintro (⟨loud, none, mem⟩ | ⟨loud, mem⟩)
    · simpa [loud, none] using mem
    · have some : o.names ≠ [] := List.ne_nil_of_mem mem
      simpa [loud, some] using mem

instance : DecidablePred (o.Prints p) := fun _ => decidable_of_iff _ mem_selected_iff

/-- The lines of the captures that are printed. -/
def Options.lines (o : Options) (p : Pattern) (d : Document) : List String :=
  ((p.run d).captures.filter fun c => o.Prints p c.name).map Captured.line

theorem dispatch_run (o : Options) (p : Pattern) (d : Document) :
    (p.run d).dispatch (printers (o.selected p)) = o.lines p d := by
  have told : (p.run d).Told d.outline := p.told_matcher d.outline .fresh
  rw [dispatch_of_told told, Options.lines]
  simp only [mem_selected_iff]

/-! ### What a match is made of -/

/-- The template can be read, is text and compiles to a pattern. -/
def Options.Compiles (o : Options) (files : Files) (p : Pattern) : Prop :=
  ∃ bytes source, files (.file o.template) = .ok bytes ∧ Charset.utf8? bytes = some source ∧
    Template.compile source = .ok p

/-- The document can be read, its charset is known and it is the markup of a tree. -/
def Options.Decodes (o : Options) (lib : Charset.Library) (files : Files) (d : Document) : Prop :=
  ∃ bytes encoding, files o.source = .ok bytes ∧ Document.encoding lib o.charset = .ok encoding ∧
    Document.read (lib.decode encoding bytes).text .lenient = .ok d

/-- Nothing is wrong with the template, which compiles to a pattern, nor with the document. -/
structure Options.Loads (o : Options) (lib : Charset.Library) (files : Files) (p : Pattern)
    (d : Document) : Prop where
  template : o.Compiles files p
  document : o.Decodes lib files d

/-- Something is wrong with the template or the document. -/
inductive Options.Fails (o : Options) (lib : Charset.Library) (files : Files) : Prop
  | unreadTemplate {fault : FileFault} : files (.file o.template) = .error fault → Fails o lib files
  | noText {bytes : List UInt8} : files (.file o.template) = .ok bytes →
      Charset.utf8? bytes = none → Fails o lib files
  | template {bytes : List UInt8} {source : String} {e : TemplateError} :
      files (.file o.template) = .ok bytes → Charset.utf8? bytes = some source →
      Template.compile source = .error e → Fails o lib files
  | unreadDocument {fault : FileFault} : files o.source = .error fault → Fails o lib files
  | charset {e : Markup.MarkupError} : Document.encoding lib o.charset = .error e →
      Fails o lib files
  | markup {bytes : List UInt8} {encoding : lib.Encoding} {e : Markup.MarkupError} :
      files o.source = .ok bytes → Document.encoding lib o.charset = .ok encoding →
      Document.read (lib.decode encoding bytes).text .lenient = .error e → Fails o lib files

/-- Two requests for the same match, which may differ in what is printed of it. -/
structure Options.Alike (o o' : Options) : Prop where
  template : o.template = o'.template
  document : o.document = o'.document
  charset : o.charset = o'.charset

theorem Options.Loads.not_fails (h : o.Loads lib files p d) : ¬o.Fails lib files := by
  obtain ⟨⟨bytes, source, readable, text, compiled⟩, bytes', encoding, found, known, read⟩ := h
  intro fails
  cases fails with
  | unreadTemplate other => cases readable.symm.trans other
  | noText same other =>
    cases readable.symm.trans same
    cases text.symm.trans other
  | template same same' other =>
    cases readable.symm.trans same
    cases text.symm.trans same'
    cases compiled.symm.trans other
  | unreadDocument other => cases found.symm.trans other
  | charset other => cases known.symm.trans other
  | markup same same' other =>
    cases found.symm.trans same
    cases known.symm.trans same'
    cases read.symm.trans other

/-- A match is made of one pattern and one document. -/
theorem Options.Loads.unique (h : o.Loads lib files p d) (h' : o.Loads lib files q e) :
    p = q ∧ d = e := by
  obtain ⟨⟨bytes, source, readable, text, compiled⟩, bytes', encoding, found, known, read⟩ := h
  obtain ⟨⟨_, _, same, same', compiled'⟩, _, _, alike, alike', read'⟩ := h'
  cases readable.symm.trans same
  cases text.symm.trans same'
  cases compiled.symm.trans compiled'
  cases found.symm.trans alike
  cases known.symm.trans alike'
  cases read.symm.trans read'
  exact ⟨rfl, rfl⟩

theorem Options.Alike.loads (alike : o.Alike o') (h : o.Loads lib files p d) :
    o'.Loads lib files p d := by
  obtain ⟨template, document, charset, names, quiet, verbose⟩ := o
  obtain ⟨template', document', charset', names', quiet', verbose'⟩ := o'
  obtain ⟨rfl, rfl, rfl⟩ := alike
  exact ⟨h.template, h.document⟩

theorem Options.Alike.fails (alike : o.Alike o') (h : o.Fails lib files) : o'.Fails lib files := by
  obtain ⟨template, document, charset, names, quiet, verbose⟩ := o
  obtain ⟨template', document', charset', names', quiet', verbose'⟩ := o'
  obtain ⟨rfl, rfl, rfl⟩ := alike
  cases h with
  | unreadTemplate unread => exact .unreadTemplate unread
  | noText readable noText => exact .noText readable noText
  | template readable text refused => exact .template readable text refused
  | unreadDocument unread => exact .unreadDocument unread
  | charset unknown => exact .charset unknown
  | markup readable known refused => exact .markup readable known refused

/-! ### Runs -/

theorem encoding_of_label {label : String} {encoding : lib.Encoding}
    (h : lib.ofLabel? (String.ofList (Text.trim label.toList)) = some encoding) :
    Document.encoding lib (some label) = .ok encoding := by
  simp only [Document.encoding, h]

theorem encoding_of_no_label {label : String}
    (h : lib.ofLabel? (String.ofList (Text.trim label.toList)) = none) :
    Document.encoding lib (some label) = .error (.unknownCharset label) := by
  simp only [Document.encoding, h]

/-- The template is compiled, or something is wrong with it. -/
theorem pattern_cases (o : Options) (lib : Charset.Library) (files : Files) :
    (∃ p, o.pattern (files (.file o.template)) = .ok p ∧ o.Compiles files p) ∨
      ∃ f, o.pattern (files (.file o.template)) = .error f ∧ o.Fails lib files := by
  unfold Options.pattern
  cases readable : files (.file o.template) with
  | error fault => exact .inr ⟨_, rfl, .unreadTemplate readable⟩
  | ok bytes =>
    dsimp only
    cases text : Charset.utf8? bytes with
    | none => exact .inr ⟨_, rfl, .noText readable text⟩
    | some source =>
      dsimp only
      cases compiled : Template.compile source with
      | error e => exact .inr ⟨_, rfl, .template readable text compiled⟩
      | ok p => exact .inl ⟨p, rfl, bytes, source, readable, text, compiled⟩

/-- The document is read, or something is wrong with it. -/
theorem parse_cases (o : Options) (lib : Charset.Library) (files : Files) :
    (∃ d, o.parse lib (files o.source) = .ok d ∧ o.Decodes lib files d) ∨
      ∃ f, o.parse lib (files o.source) = .error f ∧ o.Fails lib files := by
  unfold Options.parse
  cases readable : files o.source with
  | error fault => exact .inr ⟨_, rfl, .unreadDocument readable⟩
  | ok bytes =>
    dsimp only
    rw [Document.decodeWith]
    cases known : Document.encoding lib o.charset with
    | error e => exact .inr ⟨_, rfl, .charset known⟩
    | ok encoding =>
      rw [ok_bind]
      cases read : Document.read (lib.decode encoding bytes).text .lenient with
      | error e => exact .inr ⟨_, by simp only [read]; rfl, .markup readable known read⟩
      | ok d => exact .inl ⟨d, by simp only [read]; rfl, bytes, encoding, readable, known, read⟩

/-- A run makes a match, or something is wrong with what the match would be made of. -/
theorem run_cases (asked : Request.ofWords? words = some (.run o)) (lib : Charset.Library)
    (files : Files) :
    (∃ f : Failure, runOn lib files words = f.ending ∧ o.Fails lib files) ∨
      ∃ p d, runOn lib files words = o.ending p d ∧ o.Loads lib files p d := by
  rw [runOn, runWith, asked]
  rcases pattern_cases o lib files with ⟨p, compiled, template⟩ | ⟨f, failed, fails⟩
  · rcases parse_cases o lib files with ⟨d, parsed, document⟩ | ⟨f, failed, fails⟩
    · refine .inr ⟨p, d, ?_, template, document⟩
      simp [Options.run, compiled, parsed]
    · refine .inl ⟨f, ?_, fails⟩
      simp [Options.run, compiled, failed]
  · refine .inl ⟨f, ?_, fails⟩
    simp [Options.run, failed]

/-- What a match prints, and the code that the program exits with. -/
theorem runOn_of_loads (asked : Request.ofWords? words = some (.run o))
    (h : o.Loads lib files p d) :
    (runOn lib files words).code = (if (p.run d).verdict.isValid then 0 else 1) ∧
      ∀ line, (p.run d).SumsUp line →
        (runOn lib files words).output = String.join (o.lines p d) ++ line ++ "\n" := by
  rcases run_cases asked lib files with ⟨f, -, fails⟩ | ⟨q, e, ended, loads⟩
  · exact absurd fails h.not_fails
  · obtain ⟨rfl, rfl⟩ := loads.unique h
    rw [ended, Options.ending]
    refine ⟨rfl, fun line sums => ?_⟩
    rw [dispatch_run, Attempt.sumsUp_iff.mp sums]

theorem runOn_of_fails (asked : Request.ofWords? words = some (.run o)) (h : o.Fails lib files) :
    (runOn lib files words).code = 1 ∧ (runOn lib files words).output = "" := by
  rcases run_cases asked lib files with ⟨f, ended, -⟩ | ⟨p, d, -, loads⟩
  · rw [ended]
    exact ⟨rfl, rfl⟩
  · exact absurd h loads.not_fails

/-- **What a run of the program prints, and how it exits.** A run that is asked for a match exits
with code 1 and prints nothing if the template or the document cannot be read, the template does not
compile, the charset is not known or the document is no markup. Else it prints a line for each
capture that is bound and asked for, in the order in which they are bound, and then the line that
sums the match up, which says valid if and only if the match is valid, and exits with code 0 if and
only if it is. Which captures are asked for changes neither that line nor the code. -/
theorem run_prints (lib : Charset.Library) (files : Files)
    (asked : Request.ofWords? words = some (.run o)) :
    (o.Fails lib files →
        (runOn lib files words).code = 1 ∧ (runOn lib files words).output = "") ∧
      (¬o.Fails lib files → ∃ p d line, o.Loads lib files p d ∧ (p.run d).SumsUp line ∧
        (runOn lib files words).output = String.join (o.lines p d) ++ line ++ "\n" ∧
        (line = "valid" ↔ (p.run d).verdict.isValid) ∧
        ((runOn lib files words).code = 0 ↔ (p.run d).verdict.isValid)) ∧
      ∀ words' o', Request.ofWords? words' = some (.run o') → o.Alike o' →
        (runOn lib files words').code = (runOn lib files words).code ∧
          ∀ p d line, o.Loads lib files p d → (p.run d).SumsUp line →
            (runOn lib files words').output = String.join (o'.lines p d) ++ line ++ "\n" := by
  refine ⟨runOn_of_fails asked, fun sound => ?_, fun words' o' asked' alike => ?_⟩
  · rcases run_cases asked lib files with ⟨f, -, fails⟩ | ⟨p, d, -, loads⟩
    · exact absurd fails sound
    · obtain ⟨code, output⟩ := runOn_of_loads asked loads
      have sums : (p.run d).SumsUp (p.run d).summary := (p.run d).sumsUp_summary
      exact ⟨p, d, _, loads, sums, output _ sums, sums.eq_valid_iff, by simp [code]⟩
  · refine ⟨?_, fun p d line loads => (runOn_of_loads asked' (alike.loads loads)).2 line⟩
    rcases run_cases asked lib files with ⟨f, -, fails⟩ | ⟨p, d, -, loads⟩
    · rw [(runOn_of_fails asked fails).1, (runOn_of_fails asked' (alike.fails fails)).1]
    · rw [(runOn_of_loads asked loads).1, (runOn_of_loads asked' (alike.loads loads)).1]

/-- A capture that is named twice is printed once; a quiet run prints the last line only, in which a
node that is left over is named; and nothing is printed if the charset is not known. -/
theorem run_prints_once :
    ∃ (files : Files) (o o' o'' : Options) (p : Pattern) (d e : Document),
      Request.ofWords? ["-p", "x", "-px", "t", "d", "-c", "cp1251"] = some (.run o) ∧
      Request.ofWords? ["-q", "t", "d", "-c", "cp1251"] = some (.run o') ∧
      Request.ofWords? ["-q", "t"] = some (.run o'') ∧
      o.Alike o' ∧ o.Loads .builtin files p d ∧ o''.Loads .builtin files p e ∧
      (runOn .builtin files ["-p", "x", "-px", "t", "d", "-c", "cp1251"]).output =
        "x: я\nvalid\n" ∧
      (runOn .builtin files ["-p", "x", "-px", "t", "d", "-c", "cp1251"]).code = 0 ∧
      (runOn .builtin files ["-q", "t", "d", "-c", "cp1251"]).output = "valid\n" ∧
      (runOn .builtin files ["-q", "t", "d", "-c", "cp1251"]).code = 0 ∧
      (runOn .builtin files ["-q", "t"]).output = "partial at <b>\n" ∧
      (runOn .builtin files ["-q", "t"]).code ≠ 0 ∧
      (runOn .builtin files ["t", "d", "-c", "none"]).output = "" := by
  -- the template is `<p>{$x}я{/$x}</p>`, and the documents are `<p>я</p>`, in which the letter is
  -- one byte, and `<p>я</p><b></b>`, in which it is two
  let files : Files := fun source =>
    if source = .file "t" then
      .ok [60, 112, 62, 123, 36, 120, 125, 209, 143, 123, 47, 36, 120, 125, 60, 47, 112, 62]
    else if source = .file "d" then .ok [60, 112, 62, 255, 60, 47, 112, 62]
    else .ok [60, 112, 62, 209, 143, 60, 47, 112, 62, 60, 98, 62, 60, 47, 98, 62]
  let d : Document :=
    ⟨[.element 0 "html" [] [.element 1 "body" [] [.element 2 "p" [] [.text 3 "я"]]]]⟩
  let e : Document := ⟨[.element 0 "html" [] [.element 1 "body" []
    [.element 2 "p" [] [.text 3 "я"], .element 2 "b" [] []]]]⟩
  let named : Options := ⟨"t", some "d", some "cp1251", ["x", "x"], false, false⟩
  let quiet : Options := ⟨"t", some "d", some "cp1251", [], true, false⟩
  let other : Options := ⟨"t", none, none, [], true, false⟩
  let unknown : Options := ⟨"t", some "d", some "none", [], false, false⟩
  have asked : Request.ofWords? ["-p", "x", "-px", "t", "d", "-c", "cp1251"] =
      some (.run named) := by cbv
  have askedQuiet : Request.ofWords? ["-q", "t", "d", "-c", "cp1251"] = some (.run quiet) := by cbv
  have askedOther : Request.ofWords? ["-q", "t"] = some (.run other) := by cbv
  have unheard : Request.ofWords? ["t", "d", "-c", "none"] = some (.run unknown) := by cbv
  let source := "<p>\x7b$x\x7dя\x7b/$x\x7d</p>"
  let p : Pattern := .node (.element "html") (.node (.element "body") (.node (.element "p")
    (.node (.capture "x") (.node (.literal "я") .nil .nil) .nil) .nil) .nil) .nil
  have compiled : Template.compile source = .ok p := by cbv
  have loads : named.Loads .builtin files p d := by
    have decoded : ((Encoding.ofLabel? (String.ofList (Text.trim "cp1251".toList))).map
        fun encoding => (Charset.decode encoding [60, 112, 62, 255, 60, 47, 112, 62]).text) =
          some "<p>я</p>" := by decide +kernel
    obtain ⟨encoding, known, text⟩ := Option.map_eq_some_iff.mp decoded
    have read : Document.read "<p>я</p>" .lenient = .ok d := by cbv
    exact ⟨⟨_, source, rfl, by cbv, compiled⟩, _, _, rfl, encoding_of_label known, text ▸ read⟩
  have loads' : other.Loads .builtin files p e :=
    ⟨⟨_, source, rfl, by cbv, compiled⟩, _, .utf8, rfl, rfl, by cbv⟩
  have fails : unknown.Fails .builtin files := .charset (encoding_of_no_label (by decide +kernel))
  have alike : named.Alike quiet := ⟨rfl, rfl, rfl⟩
  obtain ⟨-, sound, same⟩ := run_prints .builtin files asked
  obtain ⟨p', d', line, once, sums, output, valid, exits⟩ := sound loads.not_fails
  obtain ⟨rfl, rfl⟩ := once.unique loads
  obtain ⟨codeQuiet, outputQuiet⟩ := same _ _ askedQuiet alike
  obtain ⟨-, soundOther, -⟩ := run_prints .builtin files askedOther
  obtain ⟨q', e', lineOther, onceOther, sumsOther, outputOther, -, exitsOther⟩ :=
    soundOther loads'.not_fails
  obtain ⟨rfl, rfl⟩ := onceOther.unique loads'
  obtain rfl := valid.mpr (by decide +kernel)
  have zero := exits.mpr (by decide +kernel)
  refine ⟨files, named, quiet, other, _, _, _, asked, askedQuiet, askedOther, alike, loads, loads',
    ?_, zero, ?_, codeQuiet.trans zero, ?_, ?_, ((run_prints .builtin files unheard).1 fails).2⟩
  · rw [output]
    decide +kernel
  · rw [outputQuiet _ _ _ loads sums]
    decide +kernel
  · rw [outputOther, Attempt.sumsUp_iff.mp sumsOther]
    decide +kernel
  · rw [Ne, exitsOther]
    decide +kernel

end CommandLine

end Stencil
