import CiClient.Bytes.Form
import CiClient.Proofs.AsciiChars
import CiClient.Proofs.TextPieces
import CiClient.Proofs.Utf8Lossy

/-!
# Form text is read as it was written

Names and values are written character by character, in a query as well as in a form, and the two
ways differ: a space is `%20` here and `+` there. `IsCharWriter` says what a form reader needs of
such a way: that the text of a character stands for its bytes, whatever follows, and holds no
separator. Percent-encoding has that property for every set of kept characters without one of
special meaning.

`IsCharWriter.parse_intercalate` follows for both: joined pairs are read as these pairs, in their
order, with repeated and empty names and values.
-/

set_option autoImplicit false

namespace CiClient

/-! ## Pieces between separators -/

/-- Texts without a separator that are joined by it are the pieces again. -/
theorem Text.split_intercalate {sep : Char → Bool} {c : Char} (hc : sep c = true)
    {texts : List (List Char)} (h : ∀ text ∈ texts, ∀ d ∈ text, sep d = false)
    (hne : texts ≠ []) : split sep ([c].intercalate texts) = texts := by
  induction texts with
  | nil => exact absurd rfl hne
  | cons text texts ih =>
    have htext := split_of_forall_not (h text List.mem_cons_self)
    cases texts with
    | nil => rw [List.intercalate_singleton, htext]
    | cons next texts =>
      have htexts := ih (fun other hother => h other (List.mem_cons_of_mem text hother))
        (List.cons_ne_nil next texts)
      rw [List.intercalate_cons_cons, List.append_assoc, List.singleton_append,
        split_append_cons hc, htext, htexts, List.singleton_append]

namespace Bytes

/-! ## Escapes -/

namespace Percent

/-- Every hexadecimal digit is read as the number that it stands for. -/
theorem hexValue?_hexDigit {n : Nat} (h : n < 16) : hexValue? (hexDigit n) = some n := by
  have key : ∀ n < 16, hexValue? (hexDigit n) = some n := by decide
  exact key n h

/-- An escape is read as its byte. -/
theorem decode_escape (b : UInt8) (cs : List Char) :
    decode (escape b ++ cs) = b :: decode cs := by
  have hb := b.toNat_lt
  have hbyte : UInt8.ofNat (16 * (b.toNat / 16) + b.toNat % 16) = b := by
    rw [Nat.div_add_mod, UInt8.ofNat_toNat]
  change decode ('%' :: hexDigit (b.toNat / 16) :: hexDigit (b.toNat % 16) :: cs) = _
  rw [decode, hexValue?_hexDigit (by omega), hexValue?_hexDigit (by omega)]
  exact congrArg (· :: _) hbyte

/-- A character other than the percent sign is read as its own bytes. -/
theorem decode_cons_of_ne {c : Char} (h : c ≠ '%') (cs : List Char) :
    decode (c :: cs) = String.utf8EncodeChar c ++ decode cs := by
  rw [decode]
  rintro high low rest rfl
  exact absurd rfl h

end Percent

namespace Form

/-- What a plus sign stands for. -/
def spaced (c : Char) : Char := if c = '+' then ' ' else c

/-- In a name or a value plus signs are read first, then escapes, then the bytes as text. -/
theorem decodePiece_eq (cs : List Char) :
    decodePiece cs = ofUtf8Lossy (Percent.decode (cs.map spaced)) := rfl

/-! ## Writing one character -/

/-- A way to write a character that form text can hold in a name or a value. -/
structure IsCharWriter (write : Char → List Char) : Prop where
  decode : ∀ c cs, Percent.decode ((write c ++ cs).map spaced) =
    String.utf8EncodeChar c ++ Percent.decode (cs.map spaced)
  separates : ∀ c, ∀ d ∈ write c, d ≠ '&' ∧ d ≠ '='

/-- The characters of a set are of ASCII and mean nothing else in form text. -/
def IsPlainSet (keep : Char → Bool) : Prop :=
  ∀ c, keep c = true → c.toNat < 128 ∧ c ∉ ['%', '+', '&', '=']

/-- The unreserved characters mean nothing else in form text. -/
theorem isPlainSet_isUnreserved : IsPlainSet Percent.isUnreserved := by
  intro c hc
  have hlt := Percent.isUnreserved_lt hc
  exact ⟨hlt, forall_of_ascii
    (P := fun c => Percent.isUnreserved c = true → c ∉ ['%', '+', '&', '=']) (by decide) hlt hc⟩

/-- The characters that stand for themselves in form text mean nothing else there. -/
theorem isPlainSet_isPlain : IsPlainSet isPlain := by
  intro c hc
  by_cases hstar : c = '*'
  · rw [hstar]
    decide
  · apply isPlainSet_isUnreserved
    rw [Percent.isUnreserved]
    simp only [isPlain, Bool.or_eq_true, beq_iff_eq] at hc ⊢
    tauto

/-- No percent-encoded text holds a plus sign. -/
theorem spaced_of_isUnreserved_or {c : Char} (h : Percent.isUnreserved c = true ∨ c = '%') :
    spaced c = c := by
  apply if_neg
  rintro rfl
  revert h
  decide

/-- No escape holds a plus sign. -/
theorem map_spaced_escape (b : UInt8) : (Percent.escape b).map spaced = Percent.escape b := by
  rw [List.map_congr_left fun c hc => spaced_of_isUnreserved_or (Percent.of_mem_escape hc),
    List.map_id']

/-- Escapes are read as their bytes, whatever follows them. -/
theorem decode_map_escapes (bytes : List UInt8) (cs : List Char) :
    Percent.decode ((bytes.flatMap Percent.escape ++ cs).map spaced) =
      bytes ++ Percent.decode (cs.map spaced) := by
  induction bytes with
  | nil => rfl
  | cons b bytes ih =>
    rw [List.flatMap_cons, List.append_assoc, List.map_append, map_spaced_escape,
      Percent.decode_escape, ih, List.cons_append]

/-- Percent-encoding writes characters so that a form can hold them. -/
theorem IsPlainSet.isCharWriter {keep : Char → Bool} (h : IsPlainSet keep) :
    IsCharWriter (Percent.encodeChar keep) where
  decode := by
    intro c cs
    unfold Percent.encodeChar
    split
    · rename_i hkeep
      obtain ⟨-, hplain⟩ := h c hkeep
      have hspaced : spaced c = c := if_neg (by rintro rfl; simp at hplain)
      rw [List.singleton_append, List.map_cons, hspaced,
        Percent.decode_cons_of_ne (by rintro rfl; simp at hplain)]
    · exact decode_map_escapes _ cs
  separates := by
    intro c d hd
    unfold Percent.encodeChar at hd
    split at hd
    · rename_i hkeep
      obtain ⟨-, hplain⟩ := h c hkeep
      rw [List.mem_singleton.mp hd]
      constructor
      all_goals
        rintro rfl
        simp at hplain
    · obtain ⟨b, -, hb⟩ := List.mem_flatMap.mp hd
      have hescape := Percent.of_mem_escape hb
      constructor
      all_goals
        rintro rfl
        exact absurd hescape (by decide)

/-- Percent-encoding is a way to write a character in form text. -/
theorem isCharWriter_unreserved : IsCharWriter (Percent.encodeChar Percent.isUnreserved) :=
  isPlainSet_isUnreserved.isCharWriter

/-- A form writes a space as a plus sign and all else by percent-encoding. -/
theorem isCharWriter_encodeChar : IsCharWriter encodeChar where
  decode := by
    intro c cs
    unfold encodeChar
    split
    · rename_i hspace
      rw [hspace]
      exact Percent.decode_cons_of_ne (by decide) _
    · exact isPlainSet_isPlain.isCharWriter.decode c cs
  separates := by
    intro c d hd
    unfold encodeChar at hd
    split at hd
    · rw [List.mem_singleton.mp hd]
      decide
    · exact isPlainSet_isPlain.isCharWriter.separates c d hd

/-! ## Names, values and pairs -/

/-- A pair whose name and value are written character by character. -/
def pairText (write : Char → List Char) (pair : String × String) : List Char :=
  pair.1.toList.flatMap write ++ '=' :: pair.2.toList.flatMap write

/-- Every pair is written with an equals sign at least. -/
theorem isEmpty_pairText (write : Char → List Char) (pair : String × String) :
    (pairText write pair).isEmpty = false := by
  simp [pairText]

namespace IsCharWriter

variable {write : Char → List Char} (h : IsCharWriter write)

include h

/-- A written text stands for its bytes. -/
theorem decode_map_flatMap (s : String) :
    Percent.decode ((s.toList.flatMap write).map spaced) = utf8 s := by
  rw [utf8_eq_flatMap]
  induction s.toList with
  | nil => rfl
  | cons c cs ih => rw [List.flatMap_cons, h.decode, ih, List.flatMap_cons]

/-- A text that is written character by character is read back. -/
theorem decodePiece_flatMap (s : String) : decodePiece (s.toList.flatMap write) = s := by
  rw [decodePiece_eq, h.decode_map_flatMap, ofUtf8Lossy_utf8]

/-- A text that is written character by character holds no separator. -/
theorem separates_flatMap (cs : List Char) : ∀ d ∈ cs.flatMap write, d ≠ '&' ∧ d ≠ '=' := by
  intro d hd
  obtain ⟨c, -, hc⟩ := List.mem_flatMap.mp hd
  exact h.separates c d hc

/-- A pair is read back. -/
theorem decodePair_pairText (pair : String × String) : decodePair (pairText write pair) = pair := by
  have hname : '=' ∉ pair.1.toList.flatMap write :=
    fun hmem => (h.separates_flatMap _ _ hmem).2 rfl
  rw [decodePair, pairText, Text.splitOnce_append _ hname]
  exact Prod.ext (h.decodePiece_flatMap pair.1) (h.decodePiece_flatMap pair.2)

/-- No pair holds the separator of pairs. -/
theorem beq_of_mem_pairText (pair : String × String) :
    ∀ d ∈ pairText write pair, (d == '&') = false := by
  intro d hd
  rw [beq_eq_false_iff_ne]
  rw [pairText, List.mem_append, List.mem_cons] at hd
  rcases hd with hd | rfl | hd
  · exact (h.separates_flatMap _ _ hd).1
  · decide
  · exact (h.separates_flatMap _ _ hd).1

/-- Pairs that are joined by `&` are read as these pairs. -/
theorem parse_intercalate (pairs : List (String × String)) :
    parse (String.ofList (['&'].intercalate (pairs.map (pairText write)))) = pairs := by
  rw [parse, String.toList_ofList]
  cases pairs with
  | nil => rfl
  | cons pair pairs =>
    have hsplit : Text.split (· == '&')
        (['&'].intercalate ((pair :: pairs).map (pairText write))) =
          (pair :: pairs).map (pairText write) := by
      refine Text.split_intercalate rfl ?_ (by simp)
      intro text htext
      obtain ⟨other, -, rfl⟩ := List.mem_map.mp htext
      exact h.beq_of_mem_pairText other
    have hfilter : ((pair :: pairs).map (pairText write)).filter (!·.isEmpty) =
        (pair :: pairs).map (pairText write) := by
      rw [List.filter_eq_self]
      intro text htext
      obtain ⟨other, -, rfl⟩ := List.mem_map.mp htext
      rw [isEmpty_pairText write other]
      rfl
    rw [hsplit, hfilter, List.map_map]
    conv => rhs; rw [← List.map_id (pair :: pairs)]
    exact List.map_congr_left fun other _ => h.decodePair_pairText other

end IsCharWriter

/-! ## Forms -/

/-- Form text is the pairs with ampersands between them. -/
theorem encodeChars_eq (pairs : List (String × String)) :
    encodeChars pairs = ['&'].intercalate (pairs.map (pairText encodeChar)) := by
  fun_induction encodeChars pairs with
  | case1 => rfl
  | case2 pair => rw [List.map_singleton, List.intercalate_singleton]; rfl
  | case3 pair pairs hne ih =>
    have hmap : pairs.map (pairText encodeChar) ≠ [] := by simpa using hne
    rw [List.map_cons, List.intercalate_cons_of_ne_nil hmap, ih, List.append_assoc]
    rfl

/-- A form is read as the pairs it was written from. -/
theorem parse_encode (pairs : List (String × String)) : parse (encode pairs) = pairs := by
  rw [encode, encodeChars_eq]
  exact isCharWriter_encodeChar.parse_intercalate pairs

end Form
end Bytes
end CiClient
