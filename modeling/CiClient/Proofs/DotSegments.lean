import Mathlib.Data.List.TakeWhile
import CiClient.Proofs.ServerPath
import CiClient.Proofs.TextPieces
import CiClient.Uri.Url

/-!
# Dots in paths

A segment of one or two dots moves within a path and is never part of it. Percent-encoding does not
help: it leaves dots as they are, and it cannot bring in an escaped dot either, because no character
but the dot is written with its byte. So the encoded form of a name is such a segment exactly when
the name consists of one or two dots: `isDotSegment_encode_iff`.

A path of other segments is resolved to itself, and a path with one of them never is:
`resolveFrom_eq_append_iff`.
-/

set_option autoImplicit false

namespace CiClient

namespace Bytes.Percent

/-! ## Encoded names -/

/-- The only character that is written with an ASCII byte in front is that of this byte. -/
theorem toNat_of_utf8EncodeChar_eq_cons {c : Char} {b : UInt8} {bs : List UInt8}
    (h : String.utf8EncodeChar c = b :: bs) (hb : b.toNat < 128) : c.toNat = b.toNat := by
  revert h
  fun_cases String.utf8EncodeChar c
  all_goals
    intro h
    simp only [List.cons.injEq] at h
    rw [← h.1, UInt8.toNat_ofNat'] at hb ⊢
  · have hv : c.toNat ≤ 127 := ‹c.val.toNat ≤ 127›
    change c.toNat = c.toNat % 256
    omega
  all_goals omega

/-- An encoded text without a percent sign was not changed. -/
theorem encodeWith_eq_self_of_not_mem {keep : Char → Bool} {cs : List Char}
    (h : '%' ∉ encodeWith keep cs) : encodeWith keep cs = cs := by
  refine encodeWith_eq_self ?_
  intro c hc
  by_contra hkeep
  refine h ?_
  rw [encodeWith, List.mem_flatMap]
  refine ⟨c, hc, ?_⟩
  rw [encodeChar, if_neg hkeep, List.mem_flatMap]
  cases hbytes : String.utf8EncodeChar c with
  | nil =>
    have hlength := String.length_utf8EncodeChar c
    rw [hbytes] at hlength
    exact absurd hlength.symm c.utf8Size_pos.ne'
  | cons b bs => exact ⟨b, List.mem_cons_self, List.mem_cons_self⟩

/-- Only the empty name is encoded as nothing. -/
theorem encodeWith_eq_nil_iff {cs : List Char} :
    encodeWith isUnreserved cs = [] ↔ cs = [] := by
  constructor
  · intro h
    have hself : encodeWith isUnreserved cs = cs :=
      encodeWith_eq_self_of_not_mem (by rw [h]; exact List.not_mem_nil)
    rwa [h, eq_comm] at hself
  · rintro rfl
    rfl

end Bytes.Percent

namespace Uri.Url

open Bytes.Percent (encodeChar encodeWith escape hexDigit isUnreserved)

/-- A dot or its escape begins with a dot or a percent sign. -/
theorem dropDot?_cons_of_ne {c : Char} (cs : List Char) (hdot : c ≠ '.') (hpercent : c ≠ '%') :
    dropDot? (c :: cs) = none := by
  rw [dropDot?.eq_def]
  split <;> simp_all

/-- No escape of a character that is not kept is that of a dot. -/
theorem dropDot?_escape {c : Char} (hc : isUnreserved c = false) (cs : List Char) :
    dropDot? (encodeChar isUnreserved c ++ cs) = none := by
  cases hbytes : String.utf8EncodeChar c with
  | nil =>
    have hlength := String.length_utf8EncodeChar c
    rw [hbytes] at hlength
    exact absurd hlength.symm c.utf8Size_pos.ne'
  | cons b bs =>
    have hdot : b.toNat ≠ 0x2E := by
      intro hb
      have hnat := Bytes.Percent.toNat_of_utf8EncodeChar_eq_cons hbytes (by omega)
      have hchar : c = '.' := Char.toNat_inj.mp (hnat.trans hb)
      rw [hchar] at hc
      exact absurd hc (by decide)
    have hdigits : ∀ n < 16, (hexDigit n = '2' → n = 2) ∧ hexDigit n ≠ 'e' ∧
        (hexDigit n = 'E' → n = 14) := by decide
    have hlt := b.toNat_lt
    have hhigh := hdigits (b.toNat / 16) (by omega)
    have hlow := hdigits (b.toNat % 16) (by omega)
    -- an upper-case escape of any byte but that of the dot is in front
    rw [encodeChar, hc, hbytes]
    simp only [Bool.false_eq_true, if_false, List.flatMap_cons, escape, List.cons_append,
      List.nil_append]
    rw [dropDot?.eq_def]
    split
    · rename_i heq
      simp at heq
    · rename_i heq
      simp only [List.cons.injEq] at heq
      exact absurd heq.2.2.1 hlow.2.1
    · rename_i heq
      simp only [List.cons.injEq] at heq
      have h2 := hhigh.1 heq.2.1
      have h14 := hlow.2.2 heq.2.2.1
      omega
    · rfl

/-- A dot is dropped from an encoded name exactly as from the name. -/
theorem dropDot?_encode_cons (c : Char) (cs : List Char) :
    dropDot? (encodeWith isUnreserved (c :: cs)) =
      if c = '.' then some (encodeWith isUnreserved cs) else none := by
  have hcons : encodeWith isUnreserved (c :: cs) =
      encodeChar isUnreserved c ++ encodeWith isUnreserved cs := List.flatMap_cons
  rw [hcons]
  cases hc : isUnreserved c with
  | false =>
    have hne : c ≠ '.' := by
      rintro rfl
      exact absurd hc (by decide)
    rw [if_neg hne, dropDot?_escape hc]
  | true =>
    have hkept : encodeChar isUnreserved c = [c] := by rw [encodeChar, if_pos hc]
    rw [hkept, List.singleton_append]
    by_cases hdot : c = '.'
    · rw [if_pos hdot, hdot, dropDot?]
    · rw [if_neg hdot, dropDot?_cons_of_ne _ hdot]
      rintro rfl
      exact absurd hc (by decide)

/-! ## Segments of dots -/

/-- A segment that moves within a path. -/
def isDotSegment (segment : List Char) : Bool := isSingleDot segment || isDoubleDot segment

/-- The encoded form of a name is a segment of dots exactly when the name is one or two dots. -/
theorem isDotSegment_encode_iff (name : List Char) :
    isDotSegment (encodeWith isUnreserved name) = true ↔ name = ['.'] ∨ name = ['.', '.'] := by
  rw [isDotSegment, Bool.or_eq_true, isSingleDot, isDoubleDot]
  cases name with
  | nil => decide
  | cons c cs =>
    rw [dropDot?_encode_cons]
    by_cases hc : c = '.'
    · cases cs with
      | nil => simp [hc, encodeWith, dropDot?]
      | cons d ds =>
        rw [if_pos hc, Option.bind_some, dropDot?_encode_cons]
        by_cases hd : d = '.'
        · simp [hc, hd, Bytes.Percent.encodeWith_eq_nil_iff]
        · simp [hc, hd, Bytes.Percent.encodeWith_eq_nil_iff]
    · simp [hc]

/-! ## Resolved paths -/

/-- A path without segments of dots. -/
def IsPlainPath (path : List String) : Prop := "." ∉ path ∧ ".." ∉ path

/-- A segment of characters that a path keeps is sent as it is. -/
theorem encodeSegment_eq {segment : List Char} (h : ∀ c ∈ segment, keptInPath c = true) :
    encodeSegment segment = String.ofList segment := by
  rw [encodeSegment, Bytes.Percent.encodeWith_eq_self h]

/-- What is sent of a segment is dots only if the segment is. -/
theorem encodeSegment_ne_dots {segment : List Char} (h : isDotSegment segment = false) :
    encodeSegment segment ≠ "." ∧ encodeSegment segment ≠ ".." := by
  have hne : ∀ dots : List Char, '%' ∉ dots → isDotSegment dots = true →
      encodeSegment segment ≠ String.ofList dots := by
    intro dots hpercent hdots heq
    rw [encodeSegment, String.ofList_inj] at heq
    have hself : encodeWith keptInPath segment = segment :=
      Bytes.Percent.encodeWith_eq_self_of_not_mem (by rwa [heq])
    rw [← hself, heq, hdots] at h
    cases h
  exact ⟨hne ['.'] (by decide) (by decide), hne ['.', '.'] (by decide) (by decide)⟩

variable {path : List String} {segment : List Char} {segments : List (List Char)}

/-- A segment that is not dots leads one step further. -/
theorem step_eq_append (h : isDotSegment segment = false) :
    step path segment = path ++ [encodeSegment segment] := by
  rw [isDotSegment, Bool.or_eq_false_iff] at h
  simp [step, h.1, h.2]

/-- A last segment that is not dots ends the path. -/
theorem finish_eq_append (h : isDotSegment segment = false) :
    finish path segment = path ++ [encodeSegment segment] := by
  rw [isDotSegment, Bool.or_eq_false_iff] at h
  simp [finish, h.1, h.2]

/-- A segment that is not dots keeps the path free of dots. -/
theorem IsPlainPath.append_encodeSegment (hpath : IsPlainPath path)
    (h : isDotSegment segment = false) : IsPlainPath (path ++ [encodeSegment segment]) := by
  obtain ⟨hone, htwo⟩ := encodeSegment_ne_dots h
  simp only [IsPlainPath, List.mem_append, List.mem_singleton, not_or]
  exact ⟨⟨hpath.1, Ne.symm hone⟩, hpath.2, Ne.symm htwo⟩

/-- Leaving out the last segment keeps the path free of dots. -/
theorem IsPlainPath.dropLast (hpath : IsPlainPath path) : IsPlainPath path.dropLast :=
  ⟨fun h => hpath.1 (List.dropLast_subset _ h), fun h => hpath.2 (List.dropLast_subset _ h)⟩

/-- Every step keeps the path free of dots. -/
theorem IsPlainPath.step (hpath : IsPlainPath path) (segment : List Char) :
    IsPlainPath (step path segment) := by
  by_cases hdot : isDotSegment segment = false
  · rw [step_eq_append hdot]
    exact hpath.append_encodeSegment hdot
  · unfold Url.step
    split
    · exact hpath.dropLast
    · split
      · exact hpath
      · simp_all [isDotSegment]

/-- Every last segment keeps the path free of dots. -/
theorem IsPlainPath.finish (hpath : IsPlainPath path) (segment : List Char) :
    IsPlainPath (finish path segment) := by
  have hempty : ∀ {path : List String}, IsPlainPath path → IsPlainPath (path ++ [""]) := by
    intro path hpath
    simp only [IsPlainPath, List.mem_append, List.mem_singleton, not_or]
    exact ⟨⟨hpath.1, by decide⟩, hpath.2, by decide⟩
  by_cases hdot : isDotSegment segment = false
  · rw [finish_eq_append hdot]
    exact hpath.append_encodeSegment hdot
  · unfold Url.finish
    split
    · exact hempty hpath.dropLast
    · split
      · exact hempty hpath
      · simp_all [isDotSegment]

/-- Resolution from a plain path ends in one. -/
theorem IsPlainPath.resolveFrom (hpath : IsPlainPath path) (segments : List (List Char)) :
    IsPlainPath (resolveFrom path segments) := by
  induction segments generalizing path with
  | nil => exact hpath
  | cons segment segments ih =>
    cases segments with
    | nil => exact hpath.finish segment
    | cons next segments => exact ih (hpath.step segment)

/-- Segments that are no dots are appended one after the other. -/
theorem resolveFrom_eq_append (h : ∀ segment ∈ segments, isDotSegment segment = false) :
    resolveFrom path segments = path ++ segments.map encodeSegment := by
  induction segments generalizing path with
  | nil => simp [Url.resolveFrom]
  | cons segment segments ih =>
    have hsegment := h segment List.mem_cons_self
    have hsegments := fun other hother => h other (List.mem_cons_of_mem segment hother)
    cases segments with
    | nil => exact finish_eq_append hsegment
    | cons next segments =>
      rw [Url.resolveFrom, ih hsegments, step_eq_append hsegment]
      · simp
      · simp

/-- A plain path with further segments is resolved to just these segments exactly when none of them
is one of dots. -/
theorem resolveFrom_eq_append_iff (hpath : IsPlainPath path)
    (hkept : ∀ segment ∈ segments, ∀ c ∈ segment, keptInPath c = true)
    (hdots : ∀ segment ∈ segments, isDotSegment segment = true →
      segment = ['.'] ∨ segment = ['.', '.']) :
    resolveFrom path segments = path ++ segments.map String.ofList ↔
      ∀ segment ∈ segments, isDotSegment segment = false := by
  constructor
  · -- a segment of dots would stand in the right path, but no resolved path holds one
    intro heq segment hsegment
    have hplain := hpath.resolveFrom segments
    have hmem : String.ofList segment ∈ path ++ segments.map String.ofList :=
      List.mem_append_right _ (List.mem_map_of_mem hsegment)
    rw [← heq] at hmem
    cases hdot : isDotSegment segment with
    | false => rfl
    | true =>
      rcases hdots segment hsegment hdot with rfl | rfl
      · exact absurd hmem hplain.1
      · exact absurd hmem hplain.2
  · intro h
    rw [resolveFrom_eq_append h]
    congr 1
    apply List.map_congr_left
    intro segment hsegment
    exact encodeSegment_eq (hkept segment hsegment)

/-! ## Joined segments -/

/-- Segments in one text, each behind a slash. -/
def joined (segments : List (List Char)) : List Char := segments.flatMap ('/' :: ·)

/-- No segments are joined to nothing. -/
@[simp] theorem joined_nil : joined [] = [] := rfl

/-- A slash stands in front of each segment. -/
@[simp] theorem joined_cons (segment : List Char) (segments : List (List Char)) :
    joined (segment :: segments) = '/' :: (segment ++ joined segments) := rfl

/-- Segments are joined one list after the other. -/
@[simp] theorem joined_append (a b : List (List Char)) : joined (a ++ b) = joined a ++ joined b :=
  List.flatMap_append

/-- Segments are found again where they were joined. -/
theorem split_append_joined {sep : Char → Bool} (hsep : sep '/' = true) (text : List Char)
    (h : ∀ segment ∈ segments, ∀ c ∈ segment, sep c = false) :
    Text.split sep (text ++ joined segments) = Text.split sep text ++ segments := by
  induction segments generalizing text with
  | nil => simp
  | cons segment segments ih =>
    have hsegments := fun other hother => h other (List.mem_cons_of_mem segment hother)
    rw [joined_cons, Text.split_append_cons hsep, ih segment hsegments,
      Text.split_of_forall_not (h segment List.mem_cons_self), List.singleton_append]

/-- Segments in front are steps that are taken first. -/
theorem resolveFrom_append (before : List (List Char)) (h : segments ≠ []) :
    resolveFrom path (before ++ segments) = resolveFrom (before.foldl step path) segments := by
  induction before generalizing path with
  | nil => rfl
  | cons segment before ih =>
    obtain ⟨next, rest, hrest⟩ := List.exists_cons_of_ne_nil
      (show before ++ segments ≠ [] from List.append_ne_nil_of_right_ne_nil before h)
    rw [List.cons_append, hrest, Url.resolveFrom, ← hrest, ih, List.foldl_cons]
    · intro hnil
      cases hnil

/-- Where a text leads if more segments follow it. -/
def base : List Char → List String
  | [] => []
  | _ :: rest => (Text.split isSlash rest).foldl step []

/-- Where a text leads is free of dots. -/
theorem isPlainPath_base (text : List Char) : IsPlainPath (base text) := by
  have hfold : ∀ (segments : List (List Char)) {path : List String}, IsPlainPath path →
      IsPlainPath (segments.foldl step path) := by
    intro segments
    induction segments with
    | nil => exact id
    | cons segment segments ih => exact fun hpath => ih (hpath.step segment)
  have hnil : IsPlainPath [] := ⟨List.not_mem_nil, List.not_mem_nil⟩
  cases text with
  | nil => exact hnil
  | cons c rest => exact hfold _ hnil

/-- Joined segments behind a path go on from its base. -/
theorem resolve_append_joined {text : List Char} (htext : ∀ c ∈ text.head?, isSlash c = true)
    (hslash : ∀ segment ∈ segments, ∀ c ∈ segment, isSlash c = false) (h : segments ≠ []) :
    resolve (text ++ joined segments) = resolveFrom (base text) segments := by
  cases text with
  | nil =>
    obtain ⟨first, others, rfl⟩ := List.exists_cons_of_ne_nil h
    have hothers := fun other hother => hslash other (List.mem_cons_of_mem first hother)
    have hsplit := split_append_joined (by decide) first hothers
    rw [Text.split_of_forall_not (hslash first List.mem_cons_self), List.singleton_append] at hsplit
    change resolveFrom [] (Text.split isSlash (first ++ joined others)) = _
    rw [hsplit]
    rfl
  | cons c rest =>
    have hc : isSlash c = true := htext c rfl
    rw [resolve, segmentsOf.eq_def]
    simp only [List.cons_append, hc, if_true]
    rw [split_append_joined (by decide) rest hslash, resolveFrom_append _ h]
    rfl

end Uri.Url
end CiClient
