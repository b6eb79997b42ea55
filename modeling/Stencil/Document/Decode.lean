import Stencil.Charset.Decode
import Stencil.Document.Read
import Stencil.Text.Blank

/-!
# Document — Decoding

Documents read from bytes in an encoding that is given by a label.
-/

namespace Stencil

open Markup

namespace Document

/-- The encoding of a label, which may have white space around it; UTF-8 without one. -/
def encoding (lib : Charset.Library) (label : Option String) : Except MarkupError lib.Encoding :=
  match label with
  | none => .ok lib.utf8
  | some label =>
    match lib.ofLabel? (String.ofList (Text.trim label.toList)) with
    | some e => .ok e
    | none => .error (.unknownCharset label)

/-- The document that bytes stand for by a library of encodings, read leniently, and the reports on
its text. -/
def decodeWith (lib : Charset.Library) (bytes : List UInt8) (label : Option String) :
    Except MarkupError (Document × List String) := do
  let decoded := lib.decode (← encoding lib label) bytes
  return (← read decoded.text .lenient, lib.warnings decoded)

/-- The document that bytes stand for, and the reports on its text. -/
def decode (bytes : List UInt8) (label : Option String) :
    Except MarkupError (Document × List String) := decodeWith .builtin bytes label

end Document

end Stencil
