import Stencil.CommandLine.Request
import Stencil.Document.Decode
import Stencil.Matching.Run
import Stencil.Template.Compile

/-!
# CommandLine — Ending

How a run of the program ends: what it prints and with which code it exits. A match is printed as a
line for each capture that is asked for, in the order in which they are bound, and a line that sums
it up; where anything goes wrong before the match, there is a report and no output.
-/

namespace Stencil.CommandLine

/-- Why a file is not read. -/
inductive FileFault where
  | missing
  | notText
  | other (text : String)
  deriving DecidableEq, Repr

/-- The report of a file that is not read. -/
def FileFault.message : FileFault → String
  | missing => "No such file or directory (os error 2)"
  | notText => "stream did not contain valid UTF-8"
  | other text => text

/-- Where bytes are read from. -/
inductive Source where
  | file (path : String)
  | standardInput
  deriving DecidableEq, Repr

/-- Why no match is made. -/
inductive Failure where
  | unreadTemplate (path : String) (fault : FileFault)
  | template (path : String) (error : TemplateError)
  | unreadDocument (source : Source) (fault : FileFault)
  | document (error : Markup.MarkupError)

namespace Failure

/-- What was tried. -/
def context : Failure → String
  | unreadTemplate path _ => "Failed to read template " ++ path
  | template path _ => "Failed to compile template " ++ path
  | unreadDocument (.file path) _ => "Failed to read " ++ path
  | unreadDocument .standardInput _ => "Failed to read stdin"
  | document _ => "Failed to read document"

/-- Why it failed. -/
def cause : Failure → String
  | unreadTemplate _ fault | unreadDocument _ fault => fault.message
  | template _ error => error.message
  | document error => error.message

/-- A text with every line of it moved to the right. -/
def indented (text : String) : String :=
  String.ofList ("    ".toList ++ text.toList.flatMap fun c =>
    if c = '\n' then '\n' :: "    ".toList else [c])

/-- The report of a failure. -/
def report (f : Failure) : String :=
  "Error: " ++ f.context ++ "\n\nCaused by:\n" ++ indented f.cause ++ "\n"

end Failure

/-- How a run of the program ends. -/
structure Ending where
  code : Nat
  output : String
  report : Option String
  deriving DecidableEq, Repr

/-- The version of the program. -/
def versionLine : String := "markmatch 0.1.0\n"

/-- How the program is called. -/
def usage : String := "Usage: markmatch [OPTIONS] <TEMPLATE> [DOCUMENT]\n"

/-- What the program does, and how it is called. -/
def helpText : String :=
  "Template-driven structural pattern matching for HTML-like documents.\n\n" ++ usage ++ "\n" ++
    "Arguments:\n" ++
    "  <TEMPLATE>  Template file\n" ++
    "  [DOCUMENT]  Document to match, read from stdin when omitted\n\n" ++
    "Options:\n" ++
    "  -c, --charset <LABEL>  Document encoding label, e.g. iso-8859-1\n" ++
    "  -p, --print <NAME>     Print only these captures (repeatable)\n" ++
    "  -q, --quiet            Do not print captures\n" ++
    "  -v, --verbose          Debug logging\n" ++
    "  -h, --help             Print help\n" ++
    "  -V, --version          Print version\n"

/-- A text that is printed by itself. -/
def Ending.shown (text : String) : Ending := ⟨0, text, none⟩

/-- The end of a run that was called in the wrong way. -/
def Ending.refused : Ending := ⟨2, "", some usage⟩

/-- The end of a run in which no match was made. -/
def Failure.ending (f : Failure) : Ending := ⟨1, "", some f.report⟩

/-! ### Matches -/

/-- The pattern of the template, from what was read. -/
def Options.pattern (o : Options) (read : Except FileFault (List UInt8)) :
    Except Failure Pattern :=
  match read with
  | .error fault => .error (.unreadTemplate o.template fault)
  | .ok bytes =>
    match Charset.utf8? bytes with
    | none => .error (.unreadTemplate o.template .notText)
    | some source => (Template.compile source).mapError (.template o.template)

/-- Where the document is read from. -/
def Options.source (o : Options) : Source := o.document.elim .standardInput .file

/-- The document, from what was read. -/
def Options.parse (o : Options) (lib : Charset.Library) (read : Except FileFault (List UInt8)) :
    Except Failure Document :=
  match read with
  | .error fault => .error (.unreadDocument o.source fault)
  | .ok bytes =>
    match Document.decodeWith lib bytes o.charset with
    | .ok (d, _) => .ok d
    | .error e => .error (.document e)

/-- The captures to print. -/
def Options.selected (o : Options) (p : Pattern) : List String :=
  if o.quiet then [] else if o.names.isEmpty then p.captureNames else o.names

/-- Handlers that print a line for each of these captures. -/
def printers (names : List String) : Dispatcher String :=
  names.foldl (fun d name =>
    d.register name fun s => name ++ ": " ++ (s.get? name).getD "" ++ "\n") .empty

/-- The end of a run in which a match was made. -/
def Options.ending (o : Options) (p : Pattern) (d : Document) : Ending :=
  let a := p.run d
  ⟨if a.verdict.isValid then 0 else 1,
    String.join (a.dispatch (printers (o.selected p))) ++ a.summary ++ "\n", none⟩

/-- A match. The document is read only if there is a pattern. -/
def Options.run {m : Type → Type} [Monad m] (o : Options) (lib : Charset.Library)
    (read : Source → m (Except FileFault (List UInt8))) : m Ending := do
  match o.pattern (← read (.file o.template)) with
  | .error f => return f.ending
  | .ok p =>
    match o.parse lib (← read o.source) with
    | .error f => return f.ending
    | .ok d => return o.ending p d

/-- A run of the program with a library of encodings and the words of a command line. -/
def runWith {m : Type → Type} [Monad m] (lib : Charset.Library) (words : List String)
    (read : Source → m (Except FileFault (List UInt8))) : m Ending :=
  match Request.ofWords? words with
  | none => return .refused
  | some .help => return .shown helpText
  | some .version => return .shown versionLine
  | some (.run o) => o.run lib read

/-- A run of the program with the words of a command line. -/
def run {m : Type → Type} [Monad m] (words : List String)
    (read : Source → m (Except FileFault (List UInt8))) : m Ending :=
  runWith .builtin words read

end Stencil.CommandLine
