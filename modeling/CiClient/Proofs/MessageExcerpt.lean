import Mathlib.Data.List.Infix
import CiClient.Failure
import CiClient.Proofs.AsciiChars
import CiClient.Proofs.TextPieces

/-!
# What a message shows of a body

A failure answer puts its status into the message, and its trimmed body behind that unless the body
is empty or holds a marker of a page for people. `isMarkup_iff` reads the search as `<:+:`.

A body of more than 300 bytes is cut. `cutBefore` is the byte the cut is made at, the last one up to
the limit where a character starts, and `sliceTo?` fails where a byte is inside a character:
`sliceTo?_cutBefore` says that the cut succeeds and gives `takeBytes`, the longest prefix within the
limit. Since the text between the status and the excerpt holds characters that no marker holds,
a marker of the message would be one of the status or of the body alone.
-/

set_option autoImplicit false

namespace CiClient

open Http (Status)

namespace Text

/-! ## Texts inside others -/

/-- The search finds a text exactly when it is a part of the other one. -/
theorem occursIn_iff {needle cs : List Char} : occursIn needle cs = true ↔ needle <:+: cs := by
  induction cs with
  | nil => simp [occursIn]
  | cons c cs ih =>
    rw [occursIn, Bool.or_eq_true, ih, List.isPrefixOf_iff_prefix, List.infix_cons_iff]

/-- A text without a separator is not found across one. -/
theorem infix_append_cons_iff {needle a b : List Char} {sep : Char} (hsep : sep ∉ needle) :
    needle <:+: a ++ sep :: b ↔ needle <:+: a ∨ needle <:+: b := by
  constructor
  · intro h
    induction a with
    | nil =>
      rcases List.infix_cons_iff.mp h with h | h
      · exact Or.inl (prefix_of_prefix_append_cons (a := []) hsep h).isInfix
      · exact Or.inr h
    | cons c a ih =>
      rcases List.infix_cons_iff.mp h with h | h
      · exact Or.inl (prefix_of_prefix_append_cons (a := c :: a) hsep h).isInfix
      · rcases ih h with h | h
        · exact Or.inl (List.infix_cons h)
        · exact Or.inr h
  · rintro (h | h)
    · exact h.trans (List.prefix_append a _).isInfix
    · exact h.trans ((List.suffix_cons sep b).trans (List.suffix_append a _)).isInfix

/-! ## Bytes of a text -/

/-- The bytes of two texts add up. -/
@[simp] theorem byteCount_append (a b : List Char) :
    byteCount (a ++ b) = byteCount a + byteCount b := by
  induction a with
  | nil => simp [byteCount]
  | cons c a ih => simp [byteCount, ih, Nat.add_assoc]

/-- The bytes counted character by character are those of the string. -/
theorem byteCount_toList (s : String) : byteCount s.toList = s.utf8ByteSize := by
  have hlist : ∀ cs : List Char, byteCount cs = (String.ofList cs).utf8ByteSize := by
    intro cs
    induction cs with
    | nil => rfl
    | cons c cs ih =>
      rw [byteCount, ih, String.ofList_cons, String.utf8ByteSize_append,
        String.utf8ByteSize_singleton]
  rw [hlist, String.ofList_toList]

/-! ## The longest prefix within a limit -/

/-- What fits within a number of bytes is the front of the text. -/
theorem takeBytes_isPrefix (limit : Nat) (cs : List Char) : takeBytes limit cs <+: cs := by
  fun_induction takeBytes limit cs with
  | case1 => exact List.nil_prefix
  | case2 limit c cs _ ih => exact List.cons_prefix_cons.mpr ⟨rfl, ih⟩
  | case3 => exact List.nil_prefix

/-- What fits within a number of bytes has no more than these. -/
theorem byteCount_takeBytes_le (limit : Nat) (cs : List Char) :
    byteCount (takeBytes limit cs) ≤ limit := by
  fun_induction takeBytes limit cs with
  | case1 => exact Nat.zero_le _
  | case2 limit c cs hfits ih =>
    rw [byteCount]
    omega
  | case3 => exact Nat.zero_le _

/-- No prefix within the limit is longer. -/
theorem prefix_takeBytes {limit : Nat} {front cs : List Char} (hfront : front <+: cs)
    (hle : byteCount front ≤ limit) : front <+: takeBytes limit cs := by
  induction cs generalizing limit front with
  | nil => rwa [takeBytes]
  | cons c cs ih =>
    cases front with
    | nil => exact List.nil_prefix
    | cons d front =>
      obtain ⟨rfl, htail⟩ := List.cons_prefix_cons.mp hfront
      rw [byteCount] at hle
      rw [takeBytes, if_pos (by omega), List.cons_prefix_cons]
      exact ⟨rfl, ih htail (by omega)⟩

/-- A character has at most four bytes, so less than that is left over. -/
theorem le_byteCount_takeBytes {limit : Nat} {cs : List Char} (h : limit < byteCount cs) :
    limit ≤ byteCount (takeBytes limit cs) + 3 := by
  fun_induction takeBytes limit cs with
  | case1 => cases h
  | case2 limit c cs hfits ih =>
    rw [byteCount] at h ⊢
    have htail := ih (by omega)
    omega
  | case3 limit c cs hfits =>
    have hsize := c.utf8Size_le_four
    omega

/-! ## Cutting at a byte -/

/-- The bytes at which the characters of a text start, counted from `i`. -/
def charStarts : Nat → List Char → List Nat
  | _, [] => []
  | i, c :: cs => i :: charStarts (i + c.utf8Size) cs

/-- The last byte up to a limit at which a character starts. -/
def cutBefore (limit : Nat) (cs : List Char) : Nat :=
  ((charStarts 0 cs).takeWhile (· ≤ limit)).getLastD 0

/-- The text before a byte, if no character is cut there. -/
def sliceTo? : Nat → List Char → Option (List Char)
  | 0, _ => some []
  | _ + 1, [] => none
  | n + 1, c :: cs =>
    if c.utf8Size ≤ n + 1 then (sliceTo? (n + 1 - c.utf8Size) cs).map (c :: ·) else none

/-- A text can be cut exactly at the bytes behind its prefixes. -/
theorem sliceTo?_eq_some_iff {n : Nat} {front cs : List Char} :
    sliceTo? n cs = some front ↔ front <+: cs ∧ byteCount front = n := by
  constructor
  · intro h
    fun_induction sliceTo? n cs generalizing front with
    | case1 =>
      cases h
      exact ⟨List.nil_prefix, rfl⟩
    | case2 => cases h
    | case3 n c cs hfits ih =>
      obtain ⟨rest, hrest, rfl⟩ := Option.map_eq_some_iff.mp h
      obtain ⟨hfront, hcount⟩ := ih hrest
      refine ⟨List.cons_prefix_cons.mpr ⟨rfl, hfront⟩, ?_⟩
      rw [byteCount]
      omega
    | case4 => cases h
  · rintro ⟨h, rfl⟩
    induction front generalizing cs with
    | nil => rw [byteCount, sliceTo?]
    | cons c front ih =>
      obtain ⟨rest, rfl⟩ := h
      have hsize := c.utf8Size_pos
      have hcount : byteCount (c :: front) = byteCount (c :: front) - 1 + 1 := by
        rw [byteCount]
        omega
      have hrest : byteCount (c :: front) - 1 + 1 - c.utf8Size = byteCount front := by
        rw [byteCount]
        omega
      rw [hcount, List.cons_append, sliceTo?, if_pos (by rw [byteCount]; omega), hrest,
        ih (List.prefix_append front rest)]
      rfl

/-- The last character start up to the limit is where the characters that fit end. -/
theorem getLastD_charStarts {limit : Nat} {cs : List Char} (h : limit < byteCount cs)
    (i last : Nat) :
    ((charStarts i cs).takeWhile (· ≤ i + limit)).getLastD last =
      i + byteCount (takeBytes limit cs) := by
  fun_induction takeBytes limit cs generalizing i last with
  | case1 => cases h
  | case2 limit c cs hfits ih =>
    rw [byteCount] at h
    have htail := ih (by omega) (i + c.utf8Size) i
    have hlimit : i + c.utf8Size + (limit - c.utf8Size) = i + limit := by omega
    rw [hlimit] at htail
    rw [charStarts, List.takeWhile_cons_of_pos (by simp), List.getLastD_cons, htail, byteCount,
      Nat.add_assoc]
  | case3 limit c cs hfits =>
    have hnone : (charStarts (i + c.utf8Size) cs).takeWhile (· ≤ i + limit) = [] := by
      cases cs with
      | nil => rfl
      | cons d cs =>
        rw [charStarts, List.takeWhile_cons_of_neg]
        simpa using Nat.lt_of_not_le hfits
    rw [charStarts, List.takeWhile_cons_of_pos (by simp), List.getLastD_cons, hnone]
    rfl

/-- Cutting a longer text there cuts no character and leaves the longest prefix within the limit. -/
theorem sliceTo?_cutBefore {limit : Nat} {cs : List Char} (h : limit < byteCount cs) :
    sliceTo? (cutBefore limit cs) cs = some (takeBytes limit cs) := by
  have hcut := getLastD_charStarts h 0 0
  rw [Nat.zero_add, Nat.zero_add] at hcut
  exact sliceTo?_eq_some_iff.mpr ⟨takeBytes_isPrefix limit cs, hcut.symm⟩

end Text

/-! ## Messages -/

/-- No reason phrase opens a tag. -/
theorem Http.Status.not_mem_reason {s : Status} {reason : String} (h : s.reason? = some reason) :
    '<' ∉ reason.toList := by
  unfold reason? at h
  split at h
  case h_63 => cases h
  all_goals
    cases h
    decide

namespace Failure

/-- What a page for people begins with. -/
def markers : List (List Char) := ["<html".toList, "<!DOCTYPE".toList]

/-- A body is markup when it holds a marker. -/
theorem isMarkup_iff {body : List Char} :
    isMarkup body = true ↔ ∃ marker ∈ markers, marker <:+: body := by
  simp [isMarkup, markers, Text.occursIn_iff]

section

variable {marker : List Char}

/-- A marker holds none of the characters that a message sets between its parts. -/
theorem of_mem_markers (h : marker ∈ markers) :
    '<' ∈ marker ∧ ' ' ∉ marker ∧ ':' ∉ marker ∧ '.' ∉ marker ∧
      Text.occursIn marker "<unknown status code>".toList = false := by
  have key : ∀ marker ∈ markers, '<' ∈ marker ∧ ' ' ∉ marker ∧ ':' ∉ marker ∧ '.' ∉ marker ∧
      Text.occursIn marker "<unknown status code>".toList = false := by decide
  exact key marker h

/-- A text without an opening bracket holds no marker. -/
theorem not_infix_of_not_mem (h : marker ∈ markers) {cs : List Char} (hcs : '<' ∉ cs) :
    ¬ marker <:+: cs :=
  fun hfound => hcs (hfound.subset (of_mem_markers h).1)

/-- The front of a message, up to the status, holds no marker. -/
theorem not_infix_display (h : marker ∈ markers) (status : Status) :
    ¬ marker <:+: ("HTTP " ++ status.display).toList := by
  obtain ⟨-, hblank, -, -, hunknown⟩ := of_mem_markers h
  have hreason : ¬ marker <:+: (status.reason?.getD "<unknown status code>").toList := by
    cases hsome : status.reason? with
    | none =>
      rw [Option.getD_none, ← Text.occursIn_iff, hunknown]
      exact Bool.false_ne_true
    | some reason => exact not_infix_of_not_mem h (Status.not_mem_reason hsome)
  have hcode : '<' ∉ (Nat.repr status.code).toList :=
    fun hmem => absurd (Text.isDigit_of_mem_repr hmem) (by decide)
  have htext : ("HTTP " ++ status.display).toList =
      "HTTP".toList ++ ' ' :: ((Nat.repr status.code).toList ++
        ' ' :: (status.reason?.getD "<unknown status code>").toList) := by
    simp [Status.display, String.toList_append]
  rw [htext, Text.infix_append_cons_iff hblank, Text.infix_append_cons_iff hblank, not_or, not_or]
  exact ⟨not_infix_of_not_mem h (by decide), not_infix_of_not_mem h hcode, hreason⟩

end

/-- A trimmed body that a message does not show. -/
def IsHidden (shown : String) : Prop :=
  shown = "" ∨ "<html".toList <:+: shown.toList ∨ "<!DOCTYPE".toList <:+: shown.toList

/-- A hidden body is one that is found to be empty or markup. -/
theorem isHidden_iff {shown : String} :
    IsHidden shown ↔ (shown.toList.isEmpty || isMarkup shown.toList) = true := by
  rw [IsHidden, Bool.or_eq_true, List.isEmpty_iff, String.toList_eq_nil_iff, isMarkup,
    Bool.or_eq_true, Text.occursIn_iff, Text.occursIn_iff]

section

variable (status : Status) (body : String)

/-- The message of a failure, with the body written out as characters. -/
theorem message_ofStatus :
    (ofStatus status body).message =
      if (Text.trim body).toList.isEmpty || isMarkup (Text.trim body).toList then
        "HTTP " ++ status.display
      else "HTTP " ++ status.display ++ ": " ++ String.ofList (excerpt (Text.trim body).toList) := by
  rw [Text.toList_trim]
  rfl

variable {status body}

/-- A hidden body leaves the status alone. -/
theorem message_of_isHidden (h : IsHidden (Text.trim body)) :
    (ofStatus status body).message = "HTTP " ++ status.display := by
  rw [message_ofStatus, if_pos (isHidden_iff.mp h)]

/-- Any other body follows the status as an excerpt. -/
theorem message_of_not_isHidden (h : ¬ IsHidden (Text.trim body)) :
    (ofStatus status body).message =
      "HTTP " ++ status.display ++ ": " ++ String.ofList (excerpt (Text.trim body).toList) := by
  rw [message_ofStatus, if_neg fun hhidden => h (isHidden_iff.mpr hhidden)]

end

/-- A text of at most 300 bytes is shown whole. -/
theorem excerpt_of_le {shown : List Char} (h : Text.byteCount shown ≤ 300) :
    excerpt shown = shown :=
  if_neg (Nat.not_lt.mpr h)

/-- A longer text is cut after its last character within 300 bytes, and three dots follow. -/
theorem excerpt_of_lt {shown : List Char} (h : 300 < Text.byteCount shown) :
    excerpt shown = Text.takeBytes 300 shown ++ ['.', '.', '.'] :=
  if_pos h

/-- An excerpt has at most 303 bytes, the dots among them. -/
theorem byteCount_excerpt_le (shown : List Char) : Text.byteCount (excerpt shown) ≤ 303 := by
  rcases Nat.lt_or_ge 300 (Text.byteCount shown) with h | h
  · have htake := Text.byteCount_takeBytes_le 300 shown
    have hdots : Text.byteCount ['.', '.', '.'] = 3 := by decide
    rw [excerpt_of_lt h, Text.byteCount_append, hdots]
    omega
  · rw [excerpt_of_le h]
    omega

/-- What is cut off and what is appended brings no marker in. -/
theorem not_infix_excerpt {marker shown : List Char} (h : marker ∈ markers)
    (hshown : ¬ marker <:+: shown) : ¬ marker <:+: excerpt shown := by
  obtain ⟨-, -, -, hdot, -⟩ := of_mem_markers h
  rcases Nat.lt_or_ge 300 (Text.byteCount shown) with hlong | hshort
  · rw [excerpt_of_lt hlong, Text.infix_append_cons_iff hdot, not_or]
    exact ⟨fun hfound => hshown (hfound.trans (Text.takeBytes_isPrefix _ _).isInfix),
      not_infix_of_not_mem h (by decide)⟩
  · rwa [excerpt_of_le hshort]

/-- No message holds a marker, whatever the body was. -/
theorem not_infix_message {marker : List Char} (h : marker ∈ markers) (status : Status)
    (body : String) : ¬ marker <:+: (ofStatus status body).message.toList := by
  by_cases hhidden : IsHidden (Text.trim body)
  · rw [message_of_isHidden hhidden]
    exact not_infix_display h status
  · obtain ⟨-, hblank, hcolon, -, -⟩ := of_mem_markers h
    have hshown : ¬ marker <:+: (Text.trim body).toList := by
      intro hfound
      rw [isHidden_iff, Bool.or_eq_true, not_or, isMarkup_iff] at hhidden
      exact hhidden.2 ⟨marker, h, hfound⟩
    have htext : (ofStatus status body).message.toList =
        ("HTTP " ++ status.display).toList ++ ':' ::
          ([] ++ ' ' :: excerpt (Text.trim body).toList) := by
      rw [message_of_not_isHidden hhidden]
      simp [String.toList_append]
    rw [htext, Text.infix_append_cons_iff hcolon, Text.infix_append_cons_iff hblank, not_or, not_or]
    exact ⟨not_infix_display h status, not_infix_of_not_mem h List.not_mem_nil,
      not_infix_excerpt h hshown⟩

/-- A message is no longer than its front, an excerpt and the dots. -/
theorem utf8ByteSize_message_le (status : Status) (body : String) :
    (ofStatus status body).message.utf8ByteSize ≤
      ("HTTP " ++ status.display ++ ": ").utf8ByteSize + 303 := by
  by_cases hhidden : IsHidden (Text.trim body)
  · rw [message_of_isHidden hhidden, String.utf8ByteSize_append (s := "HTTP " ++ status.display)]
    omega
  · have hexcerpt := byteCount_excerpt_le (Text.trim body).toList
    rw [← String.toList_ofList (l := excerpt _), Text.byteCount_toList] at hexcerpt
    rw [message_of_not_isHidden hhidden, String.utf8ByteSize_append]
    omega

/-- The message for a status and a body shows the trimmed body, unless that is empty or a page for
people. A body of more than 300 bytes is cut at a byte where a character starts, so no character is
cut, and what is left is the longest prefix within 300 bytes; at most three bytes are given up.
Hence the length of a message is bounded, and no message holds a marker of a page. -/
theorem message_cut_at_character (status : Status) (body : String) :
    (IsHidden (Text.trim body) →
      (ofStatus status body).message = "HTTP " ++ status.display) ∧
    (¬ IsHidden (Text.trim body) → (Text.trim body).utf8ByteSize ≤ 300 →
      (ofStatus status body).message = "HTTP " ++ status.display ++ ": " ++ Text.trim body) ∧
    (¬ IsHidden (Text.trim body) → 300 < (Text.trim body).utf8ByteSize → ∃ p : String,
      (ofStatus status body).message = "HTTP " ++ status.display ++ ": " ++ p ++ "..." ∧
      Text.sliceTo? (Text.cutBefore 300 (Text.trim body).toList) (Text.trim body).toList =
        some p.toList ∧
      p.toList <+: (Text.trim body).toList ∧ 297 ≤ p.utf8ByteSize ∧ p.utf8ByteSize ≤ 300 ∧
      ∀ q : String, q.toList <+: (Text.trim body).toList → q.utf8ByteSize ≤ 300 →
        q.toList <+: p.toList) ∧
    (ofStatus status body).message.utf8ByteSize ≤
      ("HTTP " ++ status.display ++ ": ").utf8ByteSize + 303 ∧
    ¬ "<html".toList <:+: (ofStatus status body).message.toList ∧
    ¬ "<!DOCTYPE".toList <:+: (ofStatus status body).message.toList := by
  refine ⟨message_of_isHidden, ?_, ?_, utf8ByteSize_message_le status body,
    not_infix_message (by decide) status body, not_infix_message (by decide) status body⟩
  · intro hhidden hshort
    rw [← Text.byteCount_toList] at hshort
    rw [message_of_not_isHidden hhidden, excerpt_of_le hshort, String.ofList_toList]
  · intro hhidden hlong
    rw [← Text.byteCount_toList] at hlong
    have hleast := Text.le_byteCount_takeBytes hlong
    have hmost := Text.byteCount_takeBytes_le 300 (Text.trim body).toList
    refine ⟨String.ofList (Text.takeBytes 300 (Text.trim body).toList), ?_, ?_, ?_, ?_, ?_, ?_⟩
    · rw [message_of_not_isHidden hhidden, excerpt_of_lt hlong, String.ofList_append,
        ← String.append_assoc]
    · rw [String.toList_ofList]
      exact Text.sliceTo?_cutBefore hlong
    · rw [String.toList_ofList]
      exact Text.takeBytes_isPrefix _ _
    · rw [← Text.byteCount_toList, String.toList_ofList]
      omega
    · rwa [← Text.byteCount_toList, String.toList_ofList]
    · intro q hfront hq
      rw [← Text.byteCount_toList] at hq
      rw [String.toList_ofList]
      exact Text.prefix_takeBytes hfront hq

/-- A text that is cut in front of a character of three bytes. -/
def longBody : String := String.ofList (' ' :: List.replicate 298 'x' ++ ['€', '€'])

set_option maxRecDepth 2000 in
/-- A body of 298 letters and two euro signs is cut in front of the first sign, whose three bytes
would pass the limit. -/
theorem message_cut_at_character_of_euro :
    ¬ IsHidden (Text.trim longBody) ∧ (Text.trim longBody).utf8ByteSize = 304 ∧
      (ofStatus ⟨400⟩ longBody).message =
        "HTTP 400 Bad Request: " ++ String.ofList (List.replicate 298 'x') ++ "..." := by
  have htrim : Text.trimChars (' ' :: List.replicate 298 'x' ++ ['€', '€']) =
      List.replicate 298 'x' ++ ['€', '€'] := by
    decide +kernel
  have htext : longBody.toList = ' ' :: List.replicate 298 'x' ++ ['€', '€'] :=
    String.toList_ofList
  have htrimmed : (Text.trim longBody).toList = List.replicate 298 'x' ++ ['€', '€'] := by
    rw [Text.toList_trim, htext, htrim]
  have hshown : ¬ IsHidden (Text.trim longBody) := by
    rw [isHidden_iff, htrimmed]
    decide +kernel
  have hsize : (Text.trim longBody).utf8ByteSize = 304 := by
    rw [← Text.byteCount_toList, htrimmed]
    decide +kernel
  obtain ⟨-, -, hcut, -, -, -⟩ := message_cut_at_character ⟨400⟩ longBody
  obtain ⟨p, hmessage, hslice, -⟩ := hcut hshown (by omega)
  have hp : Text.sliceTo? (Text.cutBefore 300 (List.replicate 298 'x' ++ ['€', '€']))
      (List.replicate 298 'x' ++ ['€', '€']) = some (List.replicate 298 'x') := by
    decide +kernel
  rw [htrimmed, hp, Option.some.injEq] at hslice
  rw [hslice, String.ofList_toList]
  exact ⟨hshown, hsize, hmessage⟩

end Failure
end CiClient
