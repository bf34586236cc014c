import CiClient.Bytes.Base64

/-!
# Base64 has one text for every list of bytes

`decode_eq_some_iff` says that a text is read as some bytes exactly when it is the text that these
bytes are written as. One half needs that the digits are told apart by their values, the other that
a digit of which bits are unused has zeros there, which is what `decode` insists on.

`encode` writes nothing but the sixty-four digits and the padding sign, so its text holds no colon
and no character that a header field refuses.
-/

set_option autoImplicit false

namespace CiClient.Bytes.Base64

/-! ## Digits -/

/-- Every digit is read as the number that it stands for. -/
theorem value?_digit {n : Nat} (h : n < 64) : value? (digit n) = some n := by
  have key : ∀ n < 64, value? (digit n) = some n := by decide
  exact key n h

/-- No digit is the padding sign. -/
theorem digit_ne_pad {n : Nat} (h : n < 64) : digit n ≠ '=' := by
  have key : ∀ n < 64, digit n ≠ '=' := by decide
  exact key n h

/-- Only ASCII characters have a value. -/
theorem toNat_lt_of_value? {c : Char} {n : Nat} (h : value? c = some n) : c.toNat < 128 := by
  simp only [value?, Bool.and_eq_true, decide_eq_true_eq] at h
  split at h
  · omega
  split at h
  · omega
  split at h
  · omega
  split at h
  · subst c; decide
  split at h
  · subst c; decide
  · cases h

/-- Only a digit has a value, and the value is below sixty-four. -/
theorem digit_of_value? {c : Char} {n : Nat} (h : value? c = some n) : n < 64 ∧ digit n = c := by
  have key : ∀ m < 128, (value? (Char.ofNat m)).all
      (fun n => decide (n < 64 ∧ digit n = Char.ofNat m)) = true := by decide
  have hc := key c.toNat (toNat_lt_of_value? h)
  rw [Char.ofNat_toNat, h] at hc
  simpa using hc

/-! ## Groups of digits -/

/-- The byte in two digits is the byte that they write. -/
theorem oneByte?_digits (a : UInt8) :
    oneByte? (digit (a.toNat / 4)) (digit (a.toNat % 4 * 16)) = some [a] := by
  have ha := a.toNat_lt
  have h1 : a.toNat / 4 * 4 + a.toNat % 4 * 16 / 16 = a.toNat := by omega
  have h2 : a.toNat % 4 * 16 % 16 = 0 := by omega
  simp only [oneByte?, value?_digit (show a.toNat / 4 < 64 by omega),
    value?_digit (show a.toNat % 4 * 16 < 64 by omega), Option.bind_eq_bind, Option.bind_some,
    h1, h2, if_true, UInt8.ofNat_toNat]

/-- The three digits that two bytes are written with are read back. -/
theorem twoBytes?_digits (a b : UInt8) :
    twoBytes? (digit (a.toNat / 4)) (digit (a.toNat % 4 * 16 + b.toNat / 16))
      (digit (b.toNat % 16 * 4)) = some [a, b] := by
  have ha := a.toNat_lt
  have hb := b.toNat_lt
  have h1 : a.toNat / 4 * 4 + (a.toNat % 4 * 16 + b.toNat / 16) / 16 = a.toNat := by omega
  have h2 : (a.toNat % 4 * 16 + b.toNat / 16) % 16 * 16 + b.toNat % 16 * 4 / 4 = b.toNat := by
    omega
  have h3 : b.toNat % 16 * 4 % 4 = 0 := by omega
  simp only [twoBytes?, value?_digit (show a.toNat / 4 < 64 by omega),
    value?_digit (show a.toNat % 4 * 16 + b.toNat / 16 < 64 by omega),
    value?_digit (show b.toNat % 16 * 4 < 64 by omega), Option.bind_eq_bind, Option.bind_some,
    h1, h2, h3, if_true, UInt8.ofNat_toNat]

/-- The four digits that three bytes are written with are read back. -/
theorem threeBytes?_digits (a b c : UInt8) :
    threeBytes? (digit (a.toNat / 4)) (digit (a.toNat % 4 * 16 + b.toNat / 16))
      (digit (b.toNat % 16 * 4 + c.toNat / 64)) (digit (c.toNat % 64)) = some [a, b, c] := by
  have ha := a.toNat_lt
  have hb := b.toNat_lt
  have hc := c.toNat_lt
  have h1 : a.toNat / 4 * 4 + (a.toNat % 4 * 16 + b.toNat / 16) / 16 = a.toNat := by omega
  have h2 : (a.toNat % 4 * 16 + b.toNat / 16) % 16 * 16 +
      (b.toNat % 16 * 4 + c.toNat / 64) / 4 = b.toNat := by omega
  have h3 : (b.toNat % 16 * 4 + c.toNat / 64) % 4 * 64 + c.toNat % 64 = c.toNat := by omega
  simp only [threeBytes?, value?_digit (show a.toNat / 4 < 64 by omega),
    value?_digit (show a.toNat % 4 * 16 + b.toNat / 16 < 64 by omega),
    value?_digit (show b.toNat % 16 * 4 + c.toNat / 64 < 64 by omega),
    value?_digit (show c.toNat % 64 < 64 by omega), Option.bind_eq_bind, Option.bind_some,
    h1, h2, h3, UInt8.ofNat_toNat]

/-- Two digits that are read as bytes are, with their padding, what these bytes are written as. The
unused bits of the second digit have to be zero for that. -/
theorem encode_of_oneByte? {w x : Char} {bytes : List UInt8}
    (h : oneByte? w x = some bytes) : encode bytes = [w, x, '=', '='] := by
  simp only [oneByte?, Option.bind_eq_bind, Option.bind_eq_some_iff] at h
  obtain ⟨n, hn, m, hm, h⟩ := h
  split at h
  · cases h
    obtain ⟨hn, rfl⟩ := digit_of_value? hn
    obtain ⟨hm, rfl⟩ := digit_of_value? hm
    have hb : (UInt8.ofNat (n * 4 + m / 16)).toNat = n * 4 + m / 16 :=
      UInt8.toNat_ofNat_of_lt' (by simp only [UInt8.size]; omega)
    have h1 : (n * 4 + m / 16) / 4 = n := by omega
    have h2 : (n * 4 + m / 16) % 4 * 16 = m := by omega
    simp only [encode, hb, h1, h2]
  · cases h

/-- Two bytes are written with the digits that they were read from. -/
theorem encode_of_twoBytes? {w x y : Char} {bytes : List UInt8}
    (h : twoBytes? w x y = some bytes) : encode bytes = [w, x, y, '='] := by
  simp only [twoBytes?, Option.bind_eq_bind, Option.bind_eq_some_iff] at h
  obtain ⟨n, hn, m, hm, k, hk, h⟩ := h
  split at h
  · cases h
    obtain ⟨hn, rfl⟩ := digit_of_value? hn
    obtain ⟨hm, rfl⟩ := digit_of_value? hm
    obtain ⟨hk, rfl⟩ := digit_of_value? hk
    have ha : (UInt8.ofNat (n * 4 + m / 16)).toNat = n * 4 + m / 16 :=
      UInt8.toNat_ofNat_of_lt' (by simp only [UInt8.size]; omega)
    have hb : (UInt8.ofNat (m % 16 * 16 + k / 4)).toNat = m % 16 * 16 + k / 4 :=
      UInt8.toNat_ofNat_of_lt' (by simp only [UInt8.size]; omega)
    have h1 : (n * 4 + m / 16) / 4 = n := by omega
    have h2 : (n * 4 + m / 16) % 4 * 16 + (m % 16 * 16 + k / 4) / 16 = m := by omega
    have h3 : (m % 16 * 16 + k / 4) % 16 * 4 = k := by omega
    simp only [encode, ha, hb, h1, h2, h3]
  · cases h

/-- Four digits are what the three bytes that they are read as are written as, and go before
whatever is written next. -/
theorem encode_append_of_threeBytes? {w x y z : Char} {bytes : List UInt8}
    (h : threeBytes? w x y z = some bytes) (others : List UInt8) :
    encode (bytes ++ others) = w :: x :: y :: z :: encode others := by
  simp only [threeBytes?, Option.bind_eq_bind, Option.bind_eq_some_iff] at h
  obtain ⟨n, hn, m, hm, k, hk, l, hl, h⟩ := h
  cases h
  obtain ⟨hn, rfl⟩ := digit_of_value? hn
  obtain ⟨hm, rfl⟩ := digit_of_value? hm
  obtain ⟨hk, rfl⟩ := digit_of_value? hk
  obtain ⟨hl, rfl⟩ := digit_of_value? hl
  have ha : (UInt8.ofNat (n * 4 + m / 16)).toNat = n * 4 + m / 16 :=
    UInt8.toNat_ofNat_of_lt' (by simp only [UInt8.size]; omega)
  have hb : (UInt8.ofNat (m % 16 * 16 + k / 4)).toNat = m % 16 * 16 + k / 4 :=
    UInt8.toNat_ofNat_of_lt' (by simp only [UInt8.size]; omega)
  have hc : (UInt8.ofNat (k % 4 * 64 + l)).toNat = k % 4 * 64 + l :=
    UInt8.toNat_ofNat_of_lt' (by simp only [UInt8.size]; omega)
  have h1 : (n * 4 + m / 16) / 4 = n := by omega
  have h2 : (n * 4 + m / 16) % 4 * 16 + (m % 16 * 16 + k / 4) / 16 = m := by omega
  have h3 : (m % 16 * 16 + k / 4) % 16 * 4 + (k % 4 * 64 + l) / 64 = k := by omega
  have h4 : (k % 4 * 64 + l) % 64 = l := by omega
  simp only [List.cons_append, List.nil_append, encode, ha, hb, hc, h1, h2, h3, h4]

/-! ## Texts -/

/-- What is written is read back. -/
theorem decode_encode (bytes : List UInt8) : decode (encode bytes) = some bytes := by
  fun_induction encode bytes with
  | case1 => rfl
  | case2 a => simp [decode, oneByte?_digits]
  | case3 a b =>
    have hb := b.toNat_lt
    have hy : digit (b.toNat % 16 * 4) ≠ '=' := digit_ne_pad (by omega)
    simp [decode, hy, twoBytes?_digits]
  | case4 a b c rest ih =>
    have hc := c.toNat_lt
    have hz : digit (c.toNat % 64) ≠ '=' := digit_ne_pad (by omega)
    simp [decode, hz, threeBytes?_digits, ih]

/-- What is read is written back: no second text denotes the same bytes. -/
theorem encode_of_decode {cs : List Char} {bytes : List UInt8} (h : decode cs = some bytes) :
    encode bytes = cs := by
  fun_induction decode cs generalizing bytes with
  | case1 => cases h; rfl
  | case2 => cases h
  | case3 w x rest hrest =>
    have hnil : rest = [] := by simpa using hrest
    rw [hnil, encode_of_oneByte? h]
  | case4 w x y rest hrest =>
    have hnil : rest = [] := by simpa using hrest
    rw [hnil, encode_of_twoBytes? h]
  | case5 w x y z rest hz ih =>
    simp only [Option.bind_eq_bind, Option.bind_eq_some_iff] at h
    obtain ⟨first, hfirst, others, hothers, h⟩ := h
    cases h
    rw [encode_append_of_threeBytes? hfirst, ih hothers]
  | case6 => cases h

/-- A text is read as some bytes exactly when these are written as it. -/
theorem decode_eq_some_iff {cs : List Char} {bytes : List UInt8} :
    decode cs = some bytes ↔ encode bytes = cs :=
  ⟨encode_of_decode, fun h => h ▸ decode_encode bytes⟩

/-! ## Characters -/

/-- Only digits and the padding sign are written. -/
theorem mem_encode {bytes : List UInt8} {c : Char} (hc : c ∈ encode bytes) :
    c = '=' ∨ ∃ n < 64, c = digit n := by
  fun_induction encode bytes with
  | case1 => cases hc
  | case2 a =>
    have ha := a.toNat_lt
    simp only [List.mem_cons, List.not_mem_nil, or_false] at hc
    rcases hc with rfl | rfl | rfl | rfl
    · exact Or.inr ⟨_, by omega, rfl⟩
    · exact Or.inr ⟨_, by omega, rfl⟩
    · exact Or.inl rfl
    · exact Or.inl rfl
  | case3 a b =>
    have ha := a.toNat_lt
    have hb := b.toNat_lt
    simp only [List.mem_cons, List.not_mem_nil, or_false] at hc
    rcases hc with rfl | rfl | rfl | rfl
    · exact Or.inr ⟨_, by omega, rfl⟩
    · exact Or.inr ⟨_, by omega, rfl⟩
    · exact Or.inr ⟨_, by omega, rfl⟩
    · exact Or.inl rfl
  | case4 a b c rest ih =>
    have ha := a.toNat_lt
    have hb := b.toNat_lt
    have hd := c.toNat_lt
    simp only [List.mem_cons] at hc
    rcases hc with rfl | rfl | rfl | rfl | hc
    · exact Or.inr ⟨_, by omega, rfl⟩
    · exact Or.inr ⟨_, by omega, rfl⟩
    · exact Or.inr ⟨_, by omega, rfl⟩
    · exact Or.inr ⟨_, by omega, rfl⟩
    · exact ih hc

/-- What is written is visible, and no part of it is a colon. -/
theorem visible_of_mem_encode {bytes : List UInt8} {c : Char} (hc : c ∈ encode bytes) :
    0x20 < c.toNat ∧ c.toNat < 0x7F ∧ c ≠ ':' := by
  have key : ∀ n < 64, 0x20 < (digit n).toNat ∧ (digit n).toNat < 0x7F ∧ digit n ≠ ':' := by
    decide
  rcases mem_encode hc with rfl | ⟨n, hn, rfl⟩
  · decide
  · exact key n hn

end CiClient.Bytes.Base64
