import Stencil.Charset.Encoding

/-!
# Charset — Decoding

Bytes as texts. A malformed sequence of bytes is reported and stands as the replacement character.
Of a malformed sequence as many bytes are taken together as could start a character. A byte order
mark at the start tells the encoding, whatever encoding is asked for. What is said of documents is
said for every library of encodings (`Charset.Library`).
-/

namespace Stencil

namespace Charset

/-- What a decoder makes of a row of inputs: its outputs at each step from a state on, and at the
end. A malformed sequence comes out as no character. -/
def outputs {σ β : Type} (step : σ → β → List (Option Char) × σ)
    (finish : σ → List (Option Char)) : σ → List β → List (Option Char)
  | state, [] => finish state
  | state, b :: rest => (step state b).1 ++ outputs step finish (step state b).2 rest

/-- At the end of the input, a sequence that waits for more is malformed. -/
def unfinished {α : Type} (waiting : Option α) : List (Option Char) :=
  if waiting.isSome then [none] else []

/-! ### UTF-8 -/

/-- The start of a character: the number of bytes that it still needs, the range of the next one,
and the value so far. -/
structure Pending where
  need : Nat
  lo : Nat
  hi : Nat
  value : Nat

/-- What a first byte starts. -/
def lead (b : Nat) : List (Option Char) × Option Pending :=
  if b < 0x80 then ([some (Char.ofNat b)], none)
  else if 0xc2 ≤ b ∧ b ≤ 0xdf then ([], some ⟨1, 0x80, 0xbf, b - 0xc0⟩)
  else if 0xe0 ≤ b ∧ b ≤ 0xef then
    ([], some ⟨2, if b = 0xe0 then 0xa0 else 0x80, if b = 0xed then 0x9f else 0xbf, b - 0xe0⟩)
  else if 0xf0 ≤ b ∧ b ≤ 0xf4 then
    ([], some ⟨3, if b = 0xf0 then 0x90 else 0x80, if b = 0xf4 then 0x8f else 0xbf, b - 0xf0⟩)
  else ([none], none)

/-- What a byte does to the start of a character. A byte that does not go on with it starts
another one. -/
def utf8Step (pending : Option Pending) (byte : UInt8) : List (Option Char) × Option Pending :=
  let b := byte.toNat
  match pending with
  | none => lead b
  | some p =>
    if p.lo ≤ b ∧ b ≤ p.hi then
      let value := p.value * 64 + (b - 0x80)
      if p.need ≤ 1 then ([some (Char.ofNat value)], none)
      else ([], some ⟨p.need - 1, 0x80, 0xbf, value⟩)
    else (none :: (lead b).1, (lead b).2)

/-- The characters of bytes in UTF-8. -/
def utf8 (bytes : List UInt8) : List (Option Char) := outputs utf8Step unfinished none bytes

/-! ### UTF-16 -/

/-- Bytes in pairs, each taken together; nothing for a last byte without another. -/
def units (join : Nat → Nat → Nat) : List UInt8 → List (Option Nat)
  | [] => []
  | [_] => [none]
  | a :: b :: rest => some (join a.toNat b.toNat) :: units join rest

/-- Whether a unit is the first one of a surrogate pair. -/
def isHigh (u : Nat) : Bool := 0xd800 ≤ u && u < 0xdc00

/-- Whether a unit is the second one of a surrogate pair. -/
def isLow (u : Nat) : Bool := 0xdc00 ≤ u && u < 0xe000

/-- What a unit starts: a character, or a pair. -/
def unitLead (u : Nat) : List (Option Char) × Option Nat :=
  if isHigh u then ([], some u)
  else if isLow u then ([none], none)
  else ([some (Char.ofNat u)], none)

/-- What a unit does behind the first unit of a pair, or behind none. -/
def utf16Step (high : Option Nat) (unit? : Option Nat) : List (Option Char) × Option Nat :=
  match unit?, high with
  | none, _ => ([none], none)
  | some u, none => unitLead u
  | some u, some h =>
    if isLow u then
      ([some (Char.ofNat (0x10000 + (h - 0xd800) * 0x400 + (u - 0xdc00)))], none)
    else (none :: (unitLead u).1, (unitLead u).2)

/-- The characters of bytes in UTF-16, in which a way to join two bytes makes a unit. -/
def utf16 (join : Nat → Nat → Nat) (bytes : List UInt8) : List (Option Char) :=
  outputs utf16Step unfinished none (units join bytes)

/-! ### One byte for each character -/

/-- The character of a byte of the upper half, if it has a meaning. -/
def upperChar (upper : List Char) (b : Nat) : Option Char :=
  upper[b - 0x80]?.filter (· ≠ '\ufffd')

/-- The characters of bytes that stand for one character each. -/
def byteWise (upper : List Char) (bytes : List UInt8) : List (Option Char) :=
  bytes.map fun b => if b < 0x80 then some (Char.ofNat b.toNat) else upperChar upper b.toNat

/-- The characters of bytes of which only the ASCII half has a meaning. -/
def userDefined (bytes : List UInt8) : List (Option Char) :=
  bytes.map fun b => some (Char.ofNat (if b < 0x80 then b.toNat else 0xf780 + (b.toNat - 0x80)))

/-! ### Texts -/

/-- The characters of bytes, nothing in place of each malformed sequence. -/
def chars (e : Encoding) (bytes : List UInt8) : List (Option Char) :=
  match e with
  | .utf8 => utf8 bytes
  | .utf16le => utf16 (fun a b => a + 0x100 * b) bytes
  | .utf16be => utf16 (fun a b => 0x100 * a + b) bytes
  | .bytes table => byteWise table.upper.toList bytes
  | .userDefined => userDefined bytes
  | .replacement => if bytes.isEmpty then [] else [none]

/-- The encoding that a byte order mark tells, or the one that is asked for, and the bytes behind
the mark. -/
def sniff (e : Encoding) : List UInt8 → Encoding × List UInt8
  | 0xef :: 0xbb :: 0xbf :: rest => (.utf8, rest)
  | 0xff :: 0xfe :: rest => (.utf16le, rest)
  | 0xfe :: 0xff :: rest => (.utf16be, rest)
  | bytes => (e, bytes)

/-- A text read from bytes, the encoding that was used, and whether a sequence was malformed. -/
structure Decoded (ε : Type) where
  text : String
  encoding : ε
  malformed : Bool

/-- The text that bytes stand for. -/
def decode (e : Encoding) (bytes : List UInt8) : Decoded Encoding :=
  let (used, rest) := sniff e bytes
  let cs := chars used rest
  ⟨String.ofList (cs.map (·.getD '\ufffd')), used, cs.any (·.isNone)⟩

/-- The text of bytes that are well-formed UTF-8, a byte order mark included. -/
def utf8? (bytes : List UInt8) : Option String := (utf8 bytes).mapM id |>.map String.ofList

/-! ### Libraries -/

/-- A library of encodings: their names, the labels that they go by, and the texts that bytes stand
for in them. Which encodings there are, and what they make of bytes, is left to the library. -/
structure Library where
  Encoding : Type
  name : Encoding → String
  utf8 : Encoding
  /-- The encoding of a label without white space around it. -/
  ofLabel? : String → Option Encoding
  /-- The text of bytes in an encoding that is asked for, which may not be the one that is used. -/
  decode : Encoding → List UInt8 → Decoded Encoding

/-- The reports on a text that was read. -/
def Library.warnings (lib : Library) (d : Decoded lib.Encoding) : List String :=
  if d.malformed then
    ["Malformed " ++ lib.name d.encoding ++ " sequences replaced while decoding"]
  else []

/-- The encodings of Unicode and those by single bytes. Those by double bytes, of Chinese, Japanese
and Korean, need tables of their own and are left to other libraries. -/
def Library.builtin : Library :=
  ⟨Stencil.Encoding, Stencil.Encoding.name, .utf8, Stencil.Encoding.ofLabel?, Charset.decode⟩

end Charset

end Stencil
