import Stencil.Markup.Reference
import Stencil.Text.LowerCase

/-!
# Markup — Attribute

The attributes of a start tag. A key runs to white space or an equals sign; its value is quoted,
or runs to white space, or is missing. A key that came before is passed over, and with it what
follows its equals sign up to white space, quoted or not.
-/

namespace Stencil.Markup

open Text

/-- A key and its value. -/
abbrev Attribute := String × String

/-- Whether a character goes on with a key. -/
def inKey (c : Char) : Bool := c != '=' && !isTagBlank c

/-- Whether a character goes on with a value without quotes. -/
def inBareValue (c : Char) : Bool := !isTagBlank c

/-- The value at the start of a text and what comes after it; nothing if its closing quote is
missing or no value is there. -/
def value? (s : List Char) : Option (List Char × List Char) :=
  match s.dropWhile isTagBlank with
  | [] => none
  | c :: rest =>
    if c = '\x22' ∨ c = '\x27' then
      match rest.dropWhile (· != c) with
      | _ :: after => some (rest.takeWhile (· != c), after)
      | [] => none
    else some (c :: rest.takeWhile inBareValue, rest.dropWhile inBareValue)

theorem length_value?_le {s value after : List Char} (h : value? s = some (value, after)) :
    after.length ≤ s.length := by
  have blank := length_dropWhile_le isTagBlank s
  unfold value? at h
  split at h
  · cases h
  · next c rest eq =>
    rw [eq, List.length_cons] at blank
    split at h
    · have quoted := length_dropWhile_le (· != c) rest
      split at h
      · next eq' =>
        rw [eq', List.length_cons] at quoted
        cases h
        omega
      · cases h
    · have bare := length_dropWhile_le inBareValue rest
      cases h
      omega

/-- The keys and values written in a text, without those of the keys seen before. -/
def rawAttributes (seen : List (List Char)) (s : List Char) : List (List Char × List Char) :=
  match h : s.dropWhile isTagBlank with
  | [] => []
  | first :: more =>
    let key := first :: more.takeWhile inKey
    have shorter : more.length < s.length := by
      have := length_dropWhile_le isTagBlank s
      rw [h, List.length_cons] at this
      omega
    match h' : (more.dropWhile inKey).dropWhile isTagBlank with
    | '=' :: v =>
      have shorterValue : v.length < s.length := by
        have keyEnd := length_dropWhile_le inKey more
        have := length_dropWhile_le isTagBlank (more.dropWhile inKey)
        rw [h', List.length_cons] at this
        omega
      if key ∈ seen then
        have := length_dropWhile_le inBareValue v
        rawAttributes seen (v.dropWhile inBareValue)
      else
        match h'' : value? v with
        | some (value, after) =>
          have := length_value?_le h''
          (key, value) :: rawAttributes (key :: seen) after
        | none => []
    | gap =>
      have shorterGap : gap.length < s.length := by
        have keyEnd := length_dropWhile_le inKey more
        have := length_dropWhile_le isTagBlank (more.dropWhile inKey)
        rw [h'] at this
        omega
      if key ∈ seen then rawAttributes seen gap else (key, []) :: rawAttributes (key :: seen) gap
termination_by s.length

/-- The attributes written in a text, keys in lower case and references resolved. -/
def attributes (s : List Char) : List Attribute :=
  (rawAttributes [] s).map fun a => (lowerCase a.1, String.ofList (decodeReferences a.2))

end Stencil.Markup
