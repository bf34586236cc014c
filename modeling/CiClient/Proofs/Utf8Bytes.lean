import CiClient.Bytes.Utf8

/-!
# Bytes of a text and its characters

An ASCII character is its own byte, and all bytes of another character are none of ASCII. So a
property that does not tell the numbers from 128 on apart holds of all bytes of a text exactly when
it holds of all its characters: `forall_mem_utf8_iff`.
-/

set_option autoImplicit false

namespace CiClient.Bytes

/-- The bytes of a text are those of its characters, one after the other. -/
theorem utf8_eq_flatMap (s : String) : utf8 s = s.toList.flatMap String.utf8EncodeChar := by
  have hbytes : s.toUTF8 = (s.toList.flatMap String.utf8EncodeChar).toByteArray := by
    conv => lhs; rw [← String.ofList_toList (s := s)]
    rw [String.toUTF8_eq_toByteArray]
    rfl
  rw [utf8, hbytes, List.data_toByteArray, List.toList_toArray]

/-- An ASCII character is a single byte with its number. -/
theorem utf8EncodeChar_of_lt {c : Char} (h : c.toNat < 128) :
    String.utf8EncodeChar c = [UInt8.ofNat c.toNat] := by
  have hle : c.toNat ≤ 127 := Nat.le_of_lt_succ h
  simp [String.utf8EncodeChar, hle]

/-- No byte of any other character is one of ASCII. -/
theorem le_toNat_of_mem_utf8EncodeChar {c : Char} (h : 128 ≤ c.toNat) {b : UInt8}
    (hb : b ∈ String.utf8EncodeChar c) : 128 ≤ b.toNat := by
  revert hb
  fun_cases String.utf8EncodeChar c
  all_goals
    intro hb
    simp only [List.mem_cons, List.not_mem_nil, or_false] at hb
  · have hv : c.toNat ≤ 127 := ‹c.val.toNat ≤ 127›
    omega
  · rcases hb with rfl | rfl <;> rw [UInt8.toNat_ofNat'] <;> omega
  · rcases hb with rfl | rfl | rfl <;> rw [UInt8.toNat_ofNat'] <;> omega
  · rcases hb with rfl | rfl | rfl | rfl <;> rw [UInt8.toNat_ofNat'] <;> omega

section

variable {P : Nat → Prop} (hP : ∀ m n, 128 ≤ m → 128 ≤ n → (P m ↔ P n))

include hP

/-- A property that does not tell the numbers from 128 on apart holds of the bytes of a character
when it holds of the character. -/
theorem forall_mem_utf8EncodeChar_iff (c : Char) :
    (∀ b ∈ String.utf8EncodeChar c, P b.toNat) ↔ P c.toNat := by
  by_cases hc : c.toNat < 128
  · have hbyte : (UInt8.ofNat c.toNat).toNat = c.toNat :=
      UInt8.toNat_ofNat_of_lt' (by simp only [UInt8.size]; omega)
    simp [utf8EncodeChar_of_lt hc, hbyte]
  · have hall : ∀ b ∈ String.utf8EncodeChar c, (P b.toNat ↔ P c.toNat) := by
      intro b hb
      exact hP _ _ (le_toNat_of_mem_utf8EncodeChar (by omega) hb) (by omega)
    constructor
    · intro h
      -- every character has a first byte
      obtain ⟨b, hb⟩ : ∃ b, b ∈ String.utf8EncodeChar c := by
        apply List.exists_mem_of_length_pos
        rw [String.length_utf8EncodeChar]
        exact c.utf8Size_pos
      exact (hall b hb).mp (h b hb)
    · intro h b hb
      exact (hall b hb).mpr h

/-- It holds of the bytes of a text when it holds of the characters. -/
theorem forall_mem_utf8_iff (s : String) :
    (∀ b ∈ utf8 s, P b.toNat) ↔ ∀ c ∈ s.toList, P c.toNat := by
  rw [utf8_eq_flatMap]
  constructor
  · intro h c hc
    rw [← forall_mem_utf8EncodeChar_iff hP]
    intro b hb
    exact h b (List.mem_flatMap.mpr ⟨c, hc, hb⟩)
  · intro h b hb
    obtain ⟨c, hc, hb⟩ := List.mem_flatMap.mp hb
    exact (forall_mem_utf8EncodeChar_iff hP c).mpr (h c hc) b hb

end

end CiClient.Bytes
