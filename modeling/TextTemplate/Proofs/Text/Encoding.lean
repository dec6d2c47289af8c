import Mathlib.Tactic.SplitIfs

/-!
# The order of encoded texts

Texts are ordered by code points. That is the order of their UTF-8 bytes as well, because a greater
character has the greater byte where the bytes of two characters differ first.
-/

namespace TextTemplate.Text

/-- The bytes of a text in UTF-8. -/
def encoded (s : String) : List UInt8 := s.toList.flatMap String.utf8EncodeChar

/-- The bytes of two characters differ before the end of either. -/
theorem utf8EncodeChar_append_lt {c d : Char} (h : c < d) (cs ds : List UInt8) :
    String.utf8EncodeChar c ++ cs < String.utf8EncodeChar d ++ ds := by
  have less : c.val.toNat < d.val.toNat := h
  have small : d.val.toNat < 0x110000 := by
    rcases d.valid with low | high
    · exact Nat.lt_trans low (by decide)
    · exact high.2
  -- No byte that is put together from a mark and some bits of the character overflows.
  have first_of_two (n : Nat) : (n % 32 + 192) % 256 = n % 32 + 192 := by omega
  have first_of_three (n : Nat) : (n % 16 + 224) % 256 = n % 16 + 224 := by omega
  have first_of_four (n : Nat) : (n % 8 + 240) % 256 = n % 8 + 240 := by omega
  have further (n : Nat) : (n % 64 + 128) % 256 = n % 64 + 128 := by omega
  have second (n : Nat) : n / 4096 = n / 64 / 64 := by omega
  have third (n : Nat) : n / 262144 = n / 64 / 64 / 64 := by omega
  simp only [String.utf8EncodeChar]
  split_ifs <;>
    simp only [List.cons_append, List.nil_append, List.cons_lt_cons_iff, UInt8.lt_iff_toNat_lt,
      ← UInt8.toNat_inj, UInt8.toNat_ofNat', Nat.reducePow, first_of_two, first_of_three,
      first_of_four, further, second, third] <;>
    omega

theorem encoded_lt {a b : String} (h : a < b) : encoded a < encoded b := by
  have chars : a.toList < b.toList := h
  unfold encoded
  generalize a.toList = as at chars ⊢
  generalize b.toList = bs at chars ⊢
  induction chars with
  | nil =>
      obtain ⟨byte, bytes, first⟩ := List.exists_cons_of_ne_nil String.utf8EncodeChar_ne_nil
      rw [List.flatMap_cons, first]
      exact List.nil_lt_cons _ _
  | rel less => exact utf8EncodeChar_append_lt less _ _
  | cons _ ih => exact List.append_left_lt ih

end TextTemplate.Text
