/-!
# CommandLine — Request

The words of a command line, taken apart into items, and the request they make. A request is
refused as soon as an item is out of place; an item that asks for the help or the version is
answered before anything after it is looked at.
-/

namespace Stencil.CommandLine

/-- Options without a value. -/
inductive Switch where
  | quiet
  | verbose
  | help
  | version
  deriving DecidableEq, Repr

/-- Options with a value. -/
inductive Setting where
  | charset
  | print
  deriving DecidableEq, Repr

/-- The switch of a letter. -/
def Switch.ofLetter? : Char → Option Switch
  | 'q' => some quiet
  | 'v' => some verbose
  | 'h' => some help
  | 'V' => some version
  | _ => none

/-- The switch of a name. -/
def Switch.ofName? : String → Option Switch
  | "quiet" => some quiet
  | "verbose" => some verbose
  | "help" => some help
  | "version" => some version
  | _ => none

/-- The setting of a letter. -/
def Setting.ofLetter? : Char → Option Setting
  | 'c' => some charset
  | 'p' => some print
  | _ => none

/-- The setting of a name. -/
def Setting.ofName? : String → Option Setting
  | "charset" => some charset
  | "print" => some print
  | _ => none

/-! ### Items -/

/-- The parts of a command line. -/
inductive Item where
  | switch (s : Switch)
  | setting (s : Setting) (value : String)
  | operand (word : String)
  /-- Something that has no meaning. -/
  | stray
  deriving DecidableEq, Repr

/-- The items of a word, and the setting whose value is the next word. -/
abbrev Understood := List Item × Option Setting

/-- Letters behind a dash. The first setting among them takes the rest of the word for its value;
an equals sign may stand between. -/
def cluster : List Char → Understood
  | [] => ([], none)
  | c :: rest =>
    match Switch.ofLetter? c, Setting.ofLetter? c with
    | some s, _ => (.switch s :: (cluster rest).1, (cluster rest).2)
    | none, some s =>
      match rest with
      | [] => ([], some s)
      | '=' :: value => ([.setting s (String.ofList value)], none)
      | value => ([.setting s (String.ofList value)], none)
    | none, none => ([.stray], none)

/-- A name behind two dashes, and the value behind the first equals sign. -/
def long (name : String) (value : Option String) : Understood :=
  match Switch.ofName? name, Setting.ofName? name, value with
  | some s, _, none => ([.switch s], none)
  | none, some s, some value => ([.setting s value], none)
  | none, some s, none => ([], some s)
  | _, _, _ => ([.stray], none)

/-- What comes after the first equals sign, if there is one. -/
def valuePart (s : List Char) : Option String :=
  match s.dropWhile (· ≠ '=') with
  | _ :: value => some (String.ofList value)
  | [] => none

/-- A word on its own. A single dash is an operand. -/
def understand (word : String) : Understood :=
  match word.toList with
  | '-' :: '-' :: rest => long (String.ofList (rest.takeWhile (· ≠ '='))) (valuePart rest)
  | '-' :: c :: rest => cluster (c :: rest)
  | _ => ([.operand word], none)

/-- Whether a word can be the value of the setting before it. -/
def isValue (word : String) : Bool := word == "-" || word.toList.head? != some '-'

/-- The items of a command line behind a setting that waits for its value, or behind none. After
two dashes all words are operands. -/
def items : Option Setting → List String → List Item
  | none, [] => []
  | some _, [] => [.stray]
  | some s, word :: rest =>
    if isValue word then .setting s word :: items none rest else [.stray]
  | none, word :: rest =>
    if word = "--" then rest.map .operand
    else (understand word).1 ++ items (understand word).2 rest

/-! ### Requests -/

/-- What a match is asked with: the template and the document, which comes from the standard input
if it is not named; the encoding of the document; the captures to print, where none stands for all
of them. To be verbose changes nothing that is printed. -/
structure Options where
  template : String
  document : Option String
  charset : Option String
  names : List String
  quiet : Bool
  verbose : Bool
  deriving DecidableEq, Repr

/-- What a command line asks for. -/
inductive Request where
  | help
  | version
  | run (o : Options)
  deriving DecidableEq, Repr

/-- The items that have been read. -/
structure Draft where
  operands : List String
  charset : Option String
  names : List String
  quiet : Bool
  verbose : Bool

namespace Draft

/-- Nothing read yet. -/
def blank : Draft := ⟨[], none, [], false, false⟩

/-- The match that is asked for. -/
def options? (d : Draft) : Option Options :=
  match d.operands with
  | [template] => some ⟨template, none, d.charset, d.names, d.quiet, d.verbose⟩
  | [template, document] =>
    some ⟨template, some document, d.charset, d.names, d.quiet, d.verbose⟩
  | _ => none

/-- One more operand, of which there can be two. -/
def operand? (d : Draft) (word : String) : Option Draft :=
  if d.operands.length < 2 then some { d with operands := d.operands ++ [word] } else none

/-- One more setting. The charset can be set once. -/
def setting? (d : Draft) (value : String) : Setting → Option Draft
  | .charset => if d.charset.isSome then none else some { d with charset := some value }
  | .print => some { d with names := d.names ++ [value] }

/-- The request of the items that are still to be read. The switches can be set once. -/
def request? (d : Draft) : List Item → Option Request
  | [] => d.options?.map .run
  | .switch .help :: _ => some .help
  | .switch .version :: _ => some .version
  | .switch .quiet :: rest => if d.quiet then none else request? { d with quiet := true } rest
  | .switch .verbose :: rest =>
    if d.verbose then none else request? { d with verbose := true } rest
  | .setting s value :: rest => (d.setting? value s).bind (request? · rest)
  | .operand word :: rest => (d.operand? word).bind (request? · rest)
  | .stray :: _ => none

end Draft

/-- The request that the words of a command line make. -/
def Request.ofWords? (words : List String) : Option Request :=
  Draft.blank.request? (items none words)

end Stencil.CommandLine
