import CiClient.Bytes.Percent
import CiClient.Text.Decimal

/-!
# Characters of the paths on a server

Paths are written with unreserved characters, escapes and a few separators. `isUnreserved_lt` bounds
the unreserved characters by the ASCII ones, so that a fact about them is checked on 128 characters:
`forall_of_ascii`. Percent-encoding leaves unreserved characters and escapes only, whatever text it
is given, and a number is written with digits and perhaps a sign.
-/

set_option autoImplicit false

namespace CiClient

/-- What holds of 128 characters holds of every ASCII character. -/
theorem forall_of_ascii {P : Char → Prop} (h : ∀ n < 128, P (Char.ofNat n)) {c : Char}
    (hc : c.toNat < 128) : P c := by
  have hp := h c.toNat hc
  rwa [Char.ofNat_toNat] at hp

namespace Bytes.Percent

/-- The unreserved characters are ASCII. -/
theorem isUnreserved_lt {c : Char} (h : isUnreserved c = true) : c.toNat < 128 := by
  change (decide (c.val ≥ 65 ∧ c.val ≤ 90) || (decide (c.val ≥ 97) && decide (c.val ≤ 122)) ||
    (decide (c.val ≥ 48) && decide (c.val ≤ 57)) || c == '-' || c == '.' || c == '_' ||
    c == '~') = true at h
  simp only [Bool.or_eq_true, Bool.and_eq_true, decide_eq_true_eq, beq_iff_eq, ge_iff_le,
    UInt32.le_iff_toNat_le] at h
  change ((((((65 ≤ c.toNat ∧ c.toNat ≤ 90) ∨ (97 ≤ c.toNat ∧ c.toNat ≤ 122)) ∨
    (48 ≤ c.toNat ∧ c.toNat ≤ 57)) ∨ c = '-') ∨ c = '.') ∨ c = '_') ∨ c = '~' at h
  rcases h with ((((h | rfl) | rfl) | rfl) | rfl)
  · omega
  all_goals decide

/-- Decimal digits are unreserved. -/
theorem isUnreserved_of_isDigit {c : Char} (h : c.isDigit = true) : isUnreserved c = true := by
  unfold isUnreserved Char.isAlphanum
  simp [h]

/-- Hexadecimal digits are unreserved. -/
theorem isUnreserved_hexDigit {n : Nat} (h : n < 16) : isUnreserved (hexDigit n) = true := by
  have key : ∀ n < 16, isUnreserved (hexDigit n) = true := by decide
  exact key n h

/-- An escape is a percent sign and two unreserved characters. -/
theorem of_mem_escape {b : UInt8} {c : Char} (h : c ∈ escape b) :
    isUnreserved c = true ∨ c = '%' := by
  have hb := b.toNat_lt
  simp only [escape, List.mem_cons, List.not_mem_nil, or_false] at h
  rcases h with rfl | rfl | rfl
  · exact Or.inr rfl
  · exact Or.inl (isUnreserved_hexDigit (by omega))
  · exact Or.inl (isUnreserved_hexDigit (by omega))

/-- An encoded text holds unreserved characters and percent signs only. -/
theorem of_mem_encodeWith {cs : List Char} {c : Char} (h : c ∈ encodeWith isUnreserved cs) :
    isUnreserved c = true ∨ c = '%' := by
  simp only [encodeWith, List.mem_flatMap, encodeChar] at h
  obtain ⟨d, -, hc⟩ := h
  split at hc
  · rename_i hd
    rw [List.mem_singleton.mp hc]
    exact Or.inl hd
  · obtain ⟨b, -, hb⟩ := List.mem_flatMap.mp hc
    exact of_mem_escape hb

/-- A text of kept characters is its own encoding. -/
theorem encodeWith_eq_self {keep : Char → Bool} {cs : List Char}
    (h : ∀ c ∈ cs, keep c = true) : encodeWith keep cs = cs := by
  induction cs with
  | nil => rfl
  | cons c cs ih =>
    have hc : keep c = true := h c List.mem_cons_self
    have hcs := ih fun d hd => h d (List.mem_cons_of_mem c hd)
    unfold encodeWith at hcs
    simp [encodeWith, encodeChar, hc, hcs]

end Bytes.Percent

namespace Text

/-- A natural number is written with digits. -/
theorem isDigit_of_mem_repr {n : Nat} {c : Char} (h : c ∈ (Nat.repr n).toList) :
    c.isDigit = true := by
  rw [Nat.toList_repr] at h
  exact Nat.isDigit_of_mem_toDigits (by decide) (by decide) h

/-- A number is written with digits and perhaps a sign. -/
theorem of_mem_ofInt64 {n : Int64} {c : Char} (h : c ∈ (ofInt64 n).toList) :
    c.isDigit = true ∨ c = '-' := by
  unfold ofInt64 at h
  split at h
  · rw [String.toList_append, List.mem_append] at h
    rcases h with h | h
    · exact Or.inr (by simpa using h)
    · exact Or.inl (isDigit_of_mem_repr h)
  · exact Or.inl (isDigit_of_mem_repr h)

/-- A number is written with unreserved characters. -/
theorem isUnreserved_of_mem_ofInt64 {n : Int64} {c : Char} (h : c ∈ (ofInt64 n).toList) :
    Bytes.Percent.isUnreserved c = true := by
  rcases of_mem_ofInt64 h with hdigit | rfl
  · exact Bytes.Percent.isUnreserved_of_isDigit hdigit
  · decide

end Text
end CiClient
