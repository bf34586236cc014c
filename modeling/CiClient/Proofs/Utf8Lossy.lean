import CiClient.Proofs.Utf8Bytes

/-!
# Reading the bytes of a text without loss

The lossy reader takes one byte after the other. The first byte of a character says how many more
are owed and bounds the next one; each of those adds six bits, and the last one finishes the
character. The bounds leave out longer forms than needed and surrogates, and no character is either.
So the bytes of a character are read as that character, whatever follows, and the bytes of a text as
that text: `ofUtf8Lossy_utf8`.
-/

set_option autoImplicit false

namespace CiClient.Bytes

/-! ## One byte -/

section

variable {n bits owed low high six : Nat} (bs : List UInt8)

/-- A byte below the others is a character. -/
theorem decodeLossy_ascii (h : n < 128) :
    decodeLossy none (UInt8.ofNat n :: bs) = Char.ofNat n :: decodeLossy none bs := by
  have hbyte : (UInt8.ofNat n).toNat = n :=
    UInt8.toNat_ofNat_of_lt' (by simp only [UInt8.size]; omega)
  rw [decodeLossy, hbyte, stepChar, beginChar, if_pos h]
  rfl

/-- A first byte begins a character and gives nothing yet. -/
theorem decodeLossy_first {p : Pending} (hn : n < 256) (h : beginChar n = ([], some p)) :
    decodeLossy none (UInt8.ofNat n :: bs) = decodeLossy (some p) bs := by
  have hbyte : (UInt8.ofNat n).toNat = n := UInt8.toNat_ofNat_of_lt' hn
  rw [decodeLossy, hbyte, stepChar, h]
  rfl

section

variable (hsix : six < 64) (hlow : low ≤ six + 128) (hhigh : six + 128 ≤ high)

include hsix hlow hhigh

/-- A byte within the bounds adds its six bits, and the last one finishes the character. -/
theorem stepChar_owed :
    stepChar (some ⟨bits, owed, low, high⟩) (UInt8.ofNat (six + 128)).toNat =
      if owed ≤ 1 then ([Char.ofNat (bits * 64 + six)], none)
      else ([], some ⟨bits * 64 + six, owed - 1, 0x80, 0xBF⟩) := by
  have hbyte : (UInt8.ofNat (six + 128)).toNat = six + 128 :=
    UInt8.toNat_ofNat_of_lt' (by simp only [UInt8.size]; omega)
  rw [hbyte, stepChar]
  simp [hlow, hhigh]

/-- While more than one byte is owed, the next one is added and nothing is given. -/
theorem decodeLossy_inner :
    decodeLossy (some ⟨bits, owed + 2, low, high⟩) (UInt8.ofNat (six + 128) :: bs) =
      decodeLossy (some ⟨bits * 64 + six, owed + 1, 0x80, 0xBF⟩) bs := by
  rw [decodeLossy, stepChar_owed hsix hlow hhigh, if_neg (by omega)]
  rfl

/-- The last byte that is owed gives the character. -/
theorem decodeLossy_last :
    decodeLossy (some ⟨bits, 1, low, high⟩) (UInt8.ofNat (six + 128) :: bs) =
      Char.ofNat (bits * 64 + six) :: decodeLossy none bs := by
  rw [decodeLossy, stepChar_owed hsix hlow hhigh, if_pos (Nat.le_refl 1)]
  rfl

end
end

/-! ## First bytes

The number of a character of three or four bytes is within bounds that depend on its first byte. -/

section

variable {v : Nat}

/-- How a character of two bytes begins. -/
theorem beginChar_of_two (hlow : 0x80 ≤ v) (hhigh : v < 0x800) :
    beginChar (v / 64 % 32 + 192) = ([], some ⟨v / 64, 1, 0x80, 0xBF⟩) := by
  have hbits : v / 64 % 32 + 192 - 0xC0 = v / 64 := by omega
  rw [beginChar, if_neg (by omega), if_pos (by simp; omega), hbits]

/-- How a character of three bytes begins, with bounds that its second byte keeps. -/
theorem beginChar_of_three (hlow : 0x800 ≤ v) (hhigh : v < 0x10000)
    (hscalar : v < 0xD800 ∨ 0xDFFF < v) :
    ∃ low high, beginChar (v / 4096 % 16 + 224) = ([], some ⟨v / 4096, 2, low, high⟩) ∧
      low ≤ v / 64 % 64 + 128 ∧ v / 64 % 64 + 128 ≤ high := by
  have hbits : v / 4096 % 16 + 224 - 0xE0 = v / 4096 := by omega
  rw [beginChar, if_neg (by omega), if_neg (by simp)]
  by_cases hzero : v / 4096 = 0
  · exact ⟨0xA0, 0xBF, by rw [if_pos (by omega), hzero], by omega, by omega⟩
  rw [if_neg (by omega)]
  by_cases hsurrogate : v / 4096 = 0xD
  · exact ⟨0x80, 0x9F, by rw [if_pos (by omega), hsurrogate], by omega, by omega⟩
  exact ⟨0x80, 0xBF, by rw [if_neg (by omega), if_pos (by simp; omega), hbits], by omega,
    by omega⟩

/-- How a character of four bytes begins, with bounds that its second byte keeps. -/
theorem beginChar_of_four (hlow : 0x10000 ≤ v) (hhigh : v < 0x110000) :
    ∃ low high, beginChar (v / 262144 % 8 + 240) = ([], some ⟨v / 262144, 3, low, high⟩) ∧
      low ≤ v / 4096 % 64 + 128 ∧ v / 4096 % 64 + 128 ≤ high := by
  have hbits : v / 262144 % 8 + 240 - 0xF0 = v / 262144 := by omega
  rw [beginChar, if_neg (by omega), if_neg (by simp), if_neg (by omega), if_neg (by omega),
    if_neg (by simp)]
  by_cases hzero : v / 262144 = 0
  · exact ⟨0x90, 0xBF, by rw [if_pos (by omega), hzero], by omega, by omega⟩
  rw [if_neg (by omega)]
  by_cases hlast : v / 262144 = 4
  · exact ⟨0x80, 0x8F, by rw [if_neg (by simp; omega), if_pos (by omega), hlast], by omega,
      by omega⟩
  exact ⟨0x80, 0xBF, by rw [if_pos (by simp; omega), hbits], by omega, by omega⟩

end

/-! ## Characters and texts -/

/-- The bytes of a character are read as that character. -/
theorem decodeLossy_utf8EncodeChar (c : Char) (bs : List UInt8) :
    decodeLossy none (String.utf8EncodeChar c ++ bs) = c :: decodeLossy none bs := by
  have hchar : ∀ v, v = c.val.toNat → Char.ofNat v = c := by
    rintro v rfl
    exact Char.ofNat_toNat c
  have hscalar : c.val.toNat < 0xD800 ∨ 0xDFFF < c.val.toNat ∧ c.val.toNat < 0x110000 := c.valid
  fun_cases String.utf8EncodeChar c
  · rename_i v hone
    change decodeLossy none (UInt8.ofNat v :: bs) = _
    rw [decodeLossy_ascii bs (by omega), hchar v rfl]
  · rename_i v hone htwo
    have hbits : v / 64 * 64 + v % 64 = v := by omega
    change decodeLossy none
      (UInt8.ofNat (v / 64 % 32 + 192) :: UInt8.ofNat (v % 64 + 128) :: bs) = _
    rw [decodeLossy_first _ (by omega) (beginChar_of_two (by omega) (by omega)),
      decodeLossy_last _ (by omega) (by omega) (by omega), hbits, hchar v rfl]
  · rename_i v hone htwo hthree
    have hbits : (v / 4096 * 64 + v / 64 % 64) * 64 + v % 64 = v := by omega
    obtain ⟨low, high, hfirst, hlow, hhigh⟩ :=
      beginChar_of_three (v := v) (by omega) (by omega) (by omega)
    change decodeLossy none (UInt8.ofNat (v / 4096 % 16 + 224) ::
      UInt8.ofNat (v / 64 % 64 + 128) :: UInt8.ofNat (v % 64 + 128) :: bs) = _
    rw [decodeLossy_first _ (by omega) hfirst, decodeLossy_inner _ (by omega) hlow hhigh,
      decodeLossy_last _ (by omega) (by omega) (by omega), hbits, hchar v rfl]
  · rename_i v hone htwo hthree
    have hbits : ((v / 262144 * 64 + v / 4096 % 64) * 64 + v / 64 % 64) * 64 + v % 64 = v := by
      omega
    obtain ⟨low, high, hfirst, hlow, hhigh⟩ :=
      beginChar_of_four (v := v) (by omega) (by omega)
    change decodeLossy none (UInt8.ofNat (v / 262144 % 8 + 240) ::
      UInt8.ofNat (v / 4096 % 64 + 128) :: UInt8.ofNat (v / 64 % 64 + 128) ::
        UInt8.ofNat (v % 64 + 128) :: bs) = _
    rw [decodeLossy_first _ (by omega) hfirst, decodeLossy_inner _ (by omega) hlow hhigh,
      decodeLossy_inner _ (by omega) (by omega) (by omega),
      decodeLossy_last _ (by omega) (by omega) (by omega), hbits, hchar v rfl]

/-- The bytes of a text are read as that text. -/
theorem ofUtf8Lossy_utf8 (s : String) : ofUtf8Lossy (utf8 s) = s := by
  have hlist : ∀ cs : List Char, decodeLossy none (cs.flatMap String.utf8EncodeChar) = cs := by
    intro cs
    induction cs with
    | nil => rfl
    | cons c cs ih => rw [List.flatMap_cons, decodeLossy_utf8EncodeChar, ih]
  rw [ofUtf8Lossy, utf8_eq_flatMap, hlist, String.ofList_toList]

end CiClient.Bytes
