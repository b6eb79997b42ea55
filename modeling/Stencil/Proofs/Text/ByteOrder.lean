import Mathlib.Data.String.Basic

/-!
# Text — order of bytes

Texts are in the order of the bytes that write them (`Text.lt_iff_bytes`): a character with a smaller
code point has smaller bytes, for the first byte grows with the number of bytes, and bytes of one
number are digits of the code point.
-/

namespace Stencil

namespace Text

/-- The bytes that write a text. -/
def bytes (s : String) : List UInt8 := s.toUTF8.data.toList

theorem bytes_eq (s : String) : bytes s = s.toList.flatMap String.utf8EncodeChar := by
  conv_lhs => rw [← String.ofList_toList (s := s)]
  rw [bytes, String.toUTF8_eq_toByteArray, String.toByteArray_ofList, List.utf8Encode,
    List.toList_data_toByteArray]

theorem ofNat_lt_ofNat {a b : Nat} (ha : a < 256) (hb : b < 256) :
    UInt8.ofNat a < UInt8.ofNat b ↔ a < b := by
  rw [UInt8.lt_iff_toNat_lt, UInt8.toNat_ofNat', UInt8.toNat_ofNat', Nat.mod_eq_of_lt ha,
    Nat.mod_eq_of_lt hb]

theorem ofNat_eq_ofNat {a b : Nat} (ha : a < 256) (hb : b < 256) :
    UInt8.ofNat a = UInt8.ofNat b ↔ a = b := by
  rw [← UInt8.toNat_inj, UInt8.toNat_ofNat', UInt8.toNat_ofNat', Nat.mod_eq_of_lt ha,
    Nat.mod_eq_of_lt hb]

/-- A character with a smaller code point has smaller bytes, whatever comes behind. -/
theorem utf8EncodeChar_lt {c d : Char} (h : c < d) (l l' : List UInt8) :
    String.utf8EncodeChar c ++ l < String.utf8EncodeChar d ++ l' := by
  have less : c.val.toNat < d.val.toNat := h
  have bound : d.val.toNat < 0x110000 := by
    have valid := d.valid
    simp only [UInt32.isValidChar, Nat.isValidChar] at valid
    omega
  unfold String.utf8EncodeChar
  generalize c.val.toNat = v at *
  generalize d.val.toNat = w at *
  -- the digits in base 64 are those of quotients by 64
  have two (n : Nat) : n / 4096 = n / 64 / 64 := by rw [Nat.div_div_eq_div_mul]
  have three (n : Nat) : n / 262144 = n / 64 / 64 / 64 := by rw [← two, Nat.div_div_eq_div_mul]
  -- bytes of different numbers differ at the first one, and else at the first digit that differs
  dsimp only
  split_ifs <;> simp only [List.cons_append, List.nil_append, List.cons_lt_cons_iff] <;>
    simp (disch := omega) only [ofNat_lt_ofNat, ofNat_eq_ofNat, two, three] <;> omega

theorem flatMap_utf8EncodeChar_lt {cs ds : List Char} (h : cs < ds) :
    cs.flatMap String.utf8EncodeChar < ds.flatMap String.utf8EncodeChar := by
  induction cs generalizing ds with
  | nil =>
    cases ds with
    | nil => exact absurd h (List.lt_irrefl _)
    | cons d ds =>
      obtain ⟨b, bs, first⟩ := List.exists_cons_of_ne_nil
        (List.append_ne_nil_of_left_ne_nil (String.utf8EncodeChar_ne_nil (c := d))
          (ds.flatMap String.utf8EncodeChar))
      rw [List.flatMap_cons, first]
      exact List.nil_lt_cons b bs
  | cons c cs ih =>
    cases ds with
    | nil => exact absurd h (List.not_lt_nil _)
    | cons d ds =>
      rw [List.flatMap_cons, List.flatMap_cons]
      rcases List.cons_lt_cons_iff.mp h with less | ⟨rfl, later⟩
      · exact utf8EncodeChar_lt less _ _
      · exact List.append_left_lt (ih later)

/-- **The order of texts is the order of their bytes.** -/
theorem lt_iff_bytes (s t : String) : s < t ↔ bytes s < bytes t := by
  have forth {s t : String} (h : s < t) : bytes s < bytes t := by
    rw [bytes_eq, bytes_eq]
    exact flatMap_utf8EncodeChar_lt (String.lt_iff_toList_lt.mp h)
  refine ⟨forth, fun h => ?_⟩
  rcases lt_trichotomy s t with less | rfl | greater
  · exact less
  · exact absurd h (List.lt_irrefl _)
  · exact absurd h (List.lt_asymm (forth greater))

end Text

end Stencil
