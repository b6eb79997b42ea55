import Stencil.Charset.ByteTable

/-!
# Charset — Encoding

Encodings of documents, their names, and the labels they go by.
-/

namespace Stencil

/-- The encodings of Unicode and those by single bytes. A label of an encoding that is no longer in
use stands for the replacement of all text. -/
inductive Encoding where
  | utf8
  | utf16le
  | utf16be
  | bytes (table : Charset.ByteTable)
  | userDefined
  | replacement
  deriving DecidableEq, Repr

namespace Encoding

/-- The name of an encoding. -/
def name : Encoding → String
  | utf8 => "UTF-8"
  | utf16le => "UTF-16LE"
  | utf16be => "UTF-16BE"
  | bytes table => table.name
  | userDefined => "x-user-defined"
  | replacement => "replacement"

/-- The labels of each encoding, in small letters. -/
def labels : List (Encoding × List String) :=
  [(utf8, ["unicode-1-1-utf-8", "unicode11utf8", "unicode20utf8", "utf-8", "utf8",
      "x-unicode20utf8"]),
   (utf16le, ["csunicode", "iso-10646-ucs-2", "ucs-2", "unicode", "unicodefeff", "utf-16",
      "utf-16le"]),
   (utf16be, ["unicodefffe", "utf-16be"]),
   (userDefined, ["x-user-defined"]),
   (replacement, ["csiso2022kr", "hz-gb-2312", "iso-2022-cn", "iso-2022-cn-ext", "iso-2022-kr",
      "replacement"])] ++
    Charset.byteTables.map fun table => (bytes table, table.labels)

/-- The encoding of a label, in letters of either case. -/
def ofLabel? (label : String) : Option Encoding :=
  let plain := String.ofList (label.toList.map Char.toLower)
  (labels.find? (·.2.contains plain)).map (·.1)

end Encoding

end Stencil
