import Mathlib.Data.List.DropRight
import CiClient.Text.Blank
import CiClient.Text.Split

/-!
# Where a text is cut

`splitOnce` and `splitLast` find a separator exactly when there is one, and `splitOnce` stops at the
first. `split` respects joining: cutting two texts with a separator between them gives the pieces of
the one and then the pieces of the other.

What is left of a text after trimming was there before, and trimming it again takes nothing away.
-/

set_option autoImplicit false

namespace CiClient.Text

/-- No first separator is found exactly when there is none. -/
theorem splitOnce_eq_none_iff {sep : Char} {cs : List Char} :
    splitOnce sep cs = none ↔ sep ∉ cs := by
  induction cs with
  | nil => simp [splitOnce]
  | cons c cs ih =>
    by_cases hc : c = sep
    · simp [splitOnce, hc]
    · simp [splitOnce, hc, ih, Ne.symm hc]

/-- The first separator is the one that no other comes before. -/
theorem splitOnce_append {sep : Char} {a : List Char} (b : List Char) (ha : sep ∉ a) :
    splitOnce sep (a ++ sep :: b) = some (a, b) := by
  induction a with
  | nil => simp [splitOnce]
  | cons c a ih =>
    simp only [List.mem_cons, not_or] at ha
    simp [splitOnce, Ne.symm ha.1, ih ha.2]

/-- A text without a separator is one piece. -/
theorem split_of_forall_not {sep : Char → Bool} {cs : List Char} (h : ∀ c ∈ cs, sep c = false) :
    split sep cs = [cs] := by
  induction cs with
  | nil => rfl
  | cons c cs ih =>
    have hc : sep c = false := h c List.mem_cons_self
    have hcs := ih fun d hd => h d (List.mem_cons_of_mem c hd)
    simp [split, hc, hcs]

/-- A separator between two texts keeps their pieces apart. -/
theorem split_append_cons {sep : Char → Bool} {c : Char} (hc : sep c = true) (a b : List Char) :
    split sep (a ++ c :: b) = split sep a ++ split sep b := by
  induction a with
  | nil => simp [split, hc]
  | cons d a ih =>
    cases hd : sep d with
    | true => simp [split, hd, ih]
    | false =>
      cases ha : split sep a with
      | nil => exact absurd ha (split_ne_nil sep a)
      | cons piece pieces => simp [split, hd, ih, ha]

/-- A text without a separator that comes before one comes before the separator. -/
theorem prefix_of_prefix_append_cons {needle a b : List Char} {sep : Char} (hsep : sep ∉ needle)
    (h : needle <+: a ++ sep :: b) : needle <+: a := by
  rcases List.prefix_or_prefix_of_prefix h (List.prefix_append a _) with hfront | hfront
  · exact hfront
  · obtain ⟨rest, rfl⟩ := hfront
    rw [List.prefix_append_right_inj] at h
    cases rest with
    | nil => simp
    | cons c rest =>
      rw [(List.cons_prefix_cons.mp h).1] at hsep
      exact absurd (List.mem_append_right a List.mem_cons_self) hsep

/-- What is left after trimming was there before. -/
theorem mem_of_mem_trimChars {cs : List Char} {c : Char} (h : c ∈ trimChars cs) : c ∈ cs := by
  rw [trimChars, dropEndWhile, List.mem_reverse] at h
  have hfront := (List.dropWhile_sublist _).subset h
  rw [List.mem_reverse] at hfront
  exact (List.dropWhile_sublist _).subset hfront

/-- What begins like a text that loses nothing at its front loses nothing there. -/
theorem dropWhile_eq_self_of_prefix {p : Char → Bool} {front cs : List Char}
    (hcs : cs.dropWhile p = cs) (hfront : front <+: cs) : front.dropWhile p = front := by
  rw [List.dropWhile_eq_self_iff] at hcs ⊢
  intro hlength
  rw [hfront.getElem hlength]
  exact hcs (Nat.lt_of_lt_of_le hlength hfront.length_le)

/-- A trimmed text has no white space in front. -/
theorem dropWhile_trimChars (cs : List Char) : (trimChars cs).dropWhile isBlank = trimChars cs :=
  dropWhile_eq_self_of_prefix (List.dropWhile_idempotent isBlank cs) (List.rdropWhile_prefix _ _)

/-- A character that stays keeps everything behind it from being dropped. -/
theorem dropWhile_append_cons {p : Char → Bool} {c : Char} (hc : p c = false) (a b : List Char) :
    (a ++ c :: b).dropWhile p = a.dropWhile p ++ c :: b := by
  rw [List.dropWhile_append]
  split
  · rename_i h
    rw [List.isEmpty_iff.mp h, List.dropWhile_cons_of_neg (by simp [hc])]
    rfl
  · rfl

/-- What is taken from the front stops at a character that is not taken. -/
theorem takeWhile_append_cons {p : Char → Bool} {c : Char} (hc : p c = false) (a b : List Char) :
    (a ++ c :: b).takeWhile p = a.takeWhile p := by
  rw [List.takeWhile_append]
  split
  · rename_i h
    rw [List.takeWhile_cons_of_neg (by simp [hc]), List.append_nil]
    exact ((List.takeWhile_prefix p).eq_of_length h).symm
  · rfl

/-- What is dropped from the end stops at a character that is not dropped. -/
theorem dropEndWhile_append_cons {p : Char → Bool} {c : Char} (hc : p c = false)
    (a b : List Char) : dropEndWhile p (a ++ c :: b) = a ++ c :: dropEndWhile p b := by
  have hreverse : (a ++ c :: b).reverse = b.reverse ++ c :: a.reverse := by simp
  rw [dropEndWhile, hreverse, dropWhile_append_cons hc]
  simp [dropEndWhile]

/-- An end of which all is dropped makes no difference. -/
theorem dropEndWhile_append_of_forall {p : Char → Bool} {back : List Char}
    (h : ∀ c ∈ back, p c = true) (cs : List Char) :
    dropEndWhile p (cs ++ back) = dropEndWhile p cs := by
  rw [dropEndWhile, List.reverse_append, List.dropWhile_append_of_pos]
  · rfl
  · intro c hc
    exact h c (List.mem_reverse.mp hc)

/-- Nothing is dropped behind a last character that stays. -/
theorem dropEndWhile_eq_self {p : Char → Bool} {cs : List Char}
    (h : ∀ c ∈ cs.getLast?, p c = false) : dropEndWhile p cs = cs := by
  refine List.rdropWhile_eq_self_iff.mpr ?_
  intro hne
  simp [h _ (List.getLast?_eq_some_getLast hne)]

/-- The last character that is left is the last one that is not to be dropped. -/
theorem getLast?_dropEndWhile_eq_some_iff {p : Char → Bool} {cs : List Char} {c : Char} :
    (dropEndWhile p cs).getLast? = some c ↔
      ∃ front back, cs = front ++ c :: back ∧ p c = false ∧ ∀ d ∈ back, p d = true := by
  constructor
  · intro h
    have hne : List.rdropWhile p cs ≠ [] := List.ne_nil_of_mem (List.mem_of_getLast? h)
    have hlast := List.rdropWhile_last_not p cs hne
    rw [(List.getLast_eq_iff_getLast?_eq_some hne).mpr h] at hlast
    obtain ⟨front, hfront⟩ := List.getLast?_eq_some_iff.mp h
    refine ⟨front, List.rtakeWhile p cs, ?_, Bool.eq_false_iff.mpr hlast,
      fun d hd => List.mem_rtakeWhile_imp hd⟩
    have hsplit : dropEndWhile p cs ++ List.rtakeWhile p cs = cs :=
      List.rdropWhile_append_rtakeWhile
    rw [hfront, List.append_assoc] at hsplit
    exact hsplit.symm
  · rintro ⟨front, back, rfl, hc, hback⟩
    have hdropped : dropEndWhile p back = [] := List.rdropWhile_eq_nil_iff.mpr hback
    rw [dropEndWhile_append_cons hc, hdropped, List.getLast?_concat]

/-- White space around a separator that is none is trimmed on either side of it on its own. -/
theorem trimChars_append_cons {c : Char} (hc : isBlank c = false) (a b : List Char) :
    trimChars (a ++ c :: b) = a.dropWhile isBlank ++ c :: dropEndWhile isBlank b := by
  rw [trimChars, dropWhile_append_cons hc, dropEndWhile_append_cons hc]

/-- Blanks at the end make no difference to the trimmed text. -/
theorem trimChars_append_of_forall {back : List Char} (h : ∀ c ∈ back, isBlank c = true)
    (cs : List Char) : trimChars (cs ++ back) = trimChars cs := by
  rw [trimChars, List.dropWhile_append, trimChars]
  split
  · rename_i hcs
    rw [List.isEmpty_iff.mp hcs, List.dropWhile_eq_nil_iff.mpr h]
  · exact dropEndWhile_append_of_forall h _

/-- What is dropped at the end alone would be trimmed anyway. -/
theorem trimChars_dropEndWhile (cs : List Char) :
    trimChars (dropEndWhile isBlank cs) = trimChars cs := by
  have hsplit : cs = dropEndWhile isBlank cs ++ (cs.reverse.takeWhile isBlank).reverse := by
    rw [dropEndWhile, ← List.reverse_append, List.takeWhile_append_dropWhile, List.reverse_reverse]
  have hback : ∀ c ∈ (cs.reverse.takeWhile isBlank).reverse, isBlank c = true := by
    intro c hc
    exact List.mem_takeWhile_imp (List.mem_reverse.mp hc)
  conv => rhs; rw [hsplit]
  exact (trimChars_append_of_forall hback _).symm

/-- Nothing is left of a text when all of it is blank. -/
theorem trimChars_eq_nil_iff {cs : List Char} :
    trimChars cs = [] ↔ ∀ c ∈ cs, isBlank c = true := by
  constructor
  · intro h c hc
    by_contra hblank
    obtain ⟨a, b, rfl⟩ := List.append_of_mem hc
    rw [trimChars_append_cons (Bool.eq_false_iff.mpr hblank)] at h
    simp at h
  · intro h
    have hnil := trimChars_append_of_forall h []
    rw [List.nil_append] at hnil
    exact hnil

/-- Something is left of a text when some character is not blank. -/
theorem trimChars_ne_nil_iff {cs : List Char} :
    trimChars cs ≠ [] ↔ ∃ c ∈ cs, isBlank c = false := by
  rw [ne_eq, trimChars_eq_nil_iff]
  simp

/-- A trimmed text is trimmed already. -/
theorem trimChars_trimChars (cs : List Char) : trimChars (trimChars cs) = trimChars cs := by
  rw [trimChars, dropWhile_trimChars]
  exact List.rdropWhile_idempotent _ _

/-- A text is trimmed when there is no white space at either end. -/
theorem trimChars_eq_self_iff {cs : List Char} :
    trimChars cs = cs ↔
      (∀ c ∈ cs.head?, isBlank c = false) ∧ ∀ c ∈ cs.getLast?, isBlank c = false := by
  constructor
  · intro h
    constructor
    · intro c hc
      have hfront := List.head?_dropWhile_not isBlank cs
      rw [← h, dropWhile_trimChars, h, hc] at hfront
      exact hfront
    · intro c hc
      rw [← h] at hc
      obtain ⟨-, -, -, hkept, -⟩ := getLast?_dropEndWhile_eq_some_iff.mp hc
      exact hkept
  · rintro ⟨hhead, hlast⟩
    have hfront : cs.dropWhile isBlank = cs := by
      cases cs with
      | nil => rfl
      | cons c cs => rw [List.dropWhile_cons_of_neg (by simp [hhead c rfl])]
    rw [trimChars, hfront, dropEndWhile_eq_self hlast]

/-- A text that is not blank is one that holds a character other than white space. -/
theorem nonBlank?_eq_some_iff {s t : String} :
    nonBlank? s = some t ↔ (∃ c ∈ s.toList, isBlank c = false) ∧ t = trim s := by
  rw [← trimChars_ne_nil_iff, nonBlank?, isAllBlank]
  by_cases h : trimChars s.toList = []
  · simp [h]
  · rw [if_neg (by simpa using h)]
    constructor
    · rintro ⟨⟩
      exact ⟨h, rfl⟩
    · rintro ⟨-, rfl⟩
      rfl

/-- A text differs from every text that begins with another character. -/
theorem append_ne_of_head?_ne {front other : String} (hfront : front.toList ≠ [])
    (hother : other.toList.head? ≠ front.toList.head?) (back : String) :
    front ++ back ≠ other := by
  intro h
  apply hother
  rw [← h, String.toList_append, List.head?_append_of_ne_nil _ hfront]

end CiClient.Text
