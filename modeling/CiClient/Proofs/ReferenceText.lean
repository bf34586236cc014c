import Mathlib.Data.List.TakeWhile
import CiClient.Settings.Reference

/-!
# References in a text

`Reference.written` is a reference as it stands in a text. `read?` takes it from the front of a
text, and takes nothing else: `read?_eq_some_iff`. So a text in which no reference is written is
left as it is by `expand`, and so is a TOML value in which no text refers to anything.
-/

set_option autoImplicit false

namespace CiClient.Settings

namespace Reference

/-- A name of a variable: letters, digits and underscores, and no digit in front. -/
def IsName (name : List Char) : Prop :=
  ∃ c cs, name = c :: cs ∧ isNameStart c = true ∧ ∀ d ∈ cs, isNameChar d = true

/-- A reference that can stand in a text. -/
structure IsWritable (r : Reference) : Prop where
  name : IsName r.name.toList
  fallback : ∀ value, r.fallback = some value → '}' ∉ value

/-- What stands between the name of a reference and its closing brace. -/
def writtenFallback : Option (List Char) → List Char
  | none => []
  | some value => ':' :: '-' :: value

/-- A reference as it is written: its name and its fallback between braces. -/
def written (r : Reference) : List Char :=
  '$' :: '{' :: (r.name.toList ++ (writtenFallback r.fallback ++ ['}']))

/-- A name that is read stands at the front of the text. -/
theorem eq_append_of_readName {cs rest : List Char} {name : String}
    (h : readName cs = some (name, rest)) : IsName name.toList ∧ cs = name.toList ++ rest := by
  cases cs with
  | nil => cases h
  | cons c cs =>
    simp only [readName] at h
    split at h
    · rename_i hstart
      cases h
      rw [String.toList_ofList]
      constructor
      · refine ⟨c, _, rfl, hstart, ?_⟩
        intro d hd
        exact List.mem_takeWhile_imp hd
      · rw [List.cons_append, List.takeWhile_append_dropWhile]
    · cases h

/-- A reference that is read stands at the front of the text. -/
theorem eq_written_of_read? {cs rest : List Char} {r : Reference} (h : read? cs = some (r, rest)) :
    r.IsWritable ∧ cs = r.written ++ rest := by
  unfold read? at h
  split at h
  · rename_i cs
    split at h
    · rename_i name after hname
      obtain ⟨hisName, hcs⟩ := eq_append_of_readName hname
      cases h
      refine ⟨⟨hisName, by simp⟩, ?_⟩
      simp [written, writtenFallback, hcs]
    · rename_i name after hname
      obtain ⟨hisName, hcs⟩ := eq_append_of_readName hname
      split at h
      · rename_i c left hleft
        cases h
        -- the value ends at the first closing brace
        have hclose : c = '}' := by
          have hc := List.head?_dropWhile_not isFallbackChar after
          rw [hleft] at hc
          simpa [isFallbackChar] using hc
        have hafter : after = after.takeWhile isFallbackChar ++ '}' :: rest := by
          rw [← hclose, ← hleft, List.takeWhile_append_dropWhile]
        refine ⟨⟨hisName, ?_⟩, ?_⟩
        · rintro value ⟨⟩ hmem
          have hkept := List.mem_takeWhile_imp hmem
          simp [isFallbackChar] at hkept
        · rw [hcs]
          conv => lhs; rw [hafter]
          simp [written, writtenFallback]
      · cases h
    · cases h
  · cases h

/-- A name is read up to the first character that no name has. -/
theorem readName_append {name rest : List Char} (hname : IsName name)
    (hrest : rest.takeWhile isNameChar = []) :
    readName (name ++ rest) = some (String.ofList name, rest) := by
  obtain ⟨c, cs, rfl, hstart, hcs⟩ := hname
  have hkept : (cs ++ rest).takeWhile isNameChar = cs := by
    rw [List.takeWhile_append_of_pos hcs, hrest, List.append_nil]
  have hleft : (cs ++ rest).dropWhile isNameChar = rest := by
    have hsplit := List.takeWhile_append_dropWhile (p := isNameChar) (l := cs ++ rest)
    rw [hkept] at hsplit
    exact List.append_cancel_left hsplit
  rw [List.cons_append, readName, if_pos hstart, hkept, hleft]

/-- A written reference is read back, whatever follows it. -/
theorem read?_written {r : Reference} (hr : r.IsWritable) (rest : List Char) :
    read? (r.written ++ rest) = some (r, rest) := by
  obtain ⟨name, fallback⟩ := r
  cases fallback with
  | none =>
    have hname : readName (name.toList ++ '}' :: rest) = some (name, '}' :: rest) := by
      rw [readName_append hr.name rfl, String.ofList_toList]
    have hwritten : written ⟨name, none⟩ ++ rest = '$' :: '{' :: (name.toList ++ '}' :: rest) := by
      simp [written, writtenFallback]
    rw [hwritten, read?, hname]
    rfl
  | some value =>
    have hname : readName (name.toList ++ ':' :: '-' :: (value ++ '}' :: rest)) =
        some (name, ':' :: '-' :: (value ++ '}' :: rest)) := by
      rw [readName_append hr.name rfl, String.ofList_toList]
    have hwritten : written ⟨name, some value⟩ ++ rest =
        '$' :: '{' :: (name.toList ++ ':' :: '-' :: (value ++ '}' :: rest)) := by
      simp [written, writtenFallback]
    -- no character of the value closes it
    have hvalue : ∀ c ∈ value, isFallbackChar c = true := by
      intro c hc
      have hne : c ≠ '}' := by
        rintro rfl
        exact hr.fallback value rfl hc
      simp [isFallbackChar, hne]
    have hleft : (value ++ '}' :: rest).dropWhile isFallbackChar = '}' :: rest := by
      rw [List.dropWhile_append_of_pos hvalue]
      rfl
    have hkept : (value ++ '}' :: rest).takeWhile isFallbackChar = value := by
      rw [List.takeWhile_append_of_pos hvalue]
      exact List.append_nil value
    rw [hwritten, read?, hname]
    simp only [hleft, hkept]

/-- What is read is a reference as it is written, with the rest of the text after it. -/
theorem read?_eq_some_iff {cs rest : List Char} {r : Reference} :
    read? cs = some (r, rest) ↔ r.IsWritable ∧ cs = r.written ++ rest := by
  constructor
  · exact eq_written_of_read?
  · rintro ⟨hr, rfl⟩
    exact read?_written hr rest

end Reference

/-- A text at the front of which a reference is written. -/
def BeginsWithReference (cs : List Char) : Prop :=
  ∃ (r : Reference) (after : List Char), r.IsWritable ∧ cs = r.written ++ after

/-- A text begins with a reference exactly when one is read from it. -/
theorem beginsWithReference_iff {cs : List Char} :
    BeginsWithReference cs ↔ (Reference.read? cs).isSome = true := by
  simp only [BeginsWithReference, Option.isSome_iff_exists, Prod.exists,
    Reference.read?_eq_some_iff]

/-- Reading decides whether a text begins with a reference. -/
instance decidableBeginsWithReference (cs : List Char) : Decidable (BeginsWithReference cs) :=
  decidable_of_iff _ beginsWithReference_iff.symm

/-- A text in which a reference is written. -/
def HoldsReference (cs : List Char) : Prop :=
  ∃ (before after : List Char) (r : Reference), r.IsWritable ∧ cs = before ++ (r.written ++ after)

/-- A character in front leaves the references of a text in it. -/
theorem HoldsReference.cons {cs : List Char} (h : HoldsReference cs) (c : Char) :
    HoldsReference (c :: cs) := by
  obtain ⟨before, after, r, hr, rfl⟩ := h
  exact ⟨c :: before, after, r, hr, rfl⟩

/-- A reference at the front is one of the text. -/
theorem BeginsWithReference.holdsReference {cs : List Char} (h : BeginsWithReference cs) :
    HoldsReference cs := by
  obtain ⟨r, after, hr, rfl⟩ := h
  exact ⟨[], after, r, hr, rfl⟩

variable (env : Environment)

/-- A character that no reference begins at is kept. -/
theorem expandChars_cons {c : Char} {cs : List Char} (h : ¬BeginsWithReference (c :: cs)) :
    expandChars env (c :: cs) = (expandChars env cs).map (c :: ·) := by
  have hnone : Reference.read? (c :: cs) = none := by
    simpa [beginsWithReference_iff] using h
  rw [expandChars]
  split
  · rename_i hread
    rw [hnone] at hread
    cases hread
  · rfl

/-- A reference is replaced, or ends the expansion if it has no value. -/
theorem expandChars_written_append {r : Reference} (hr : r.IsWritable) (rest : List Char) :
    expandChars env (r.written ++ rest) =
      match r.value? env with
      | some value => (expandChars env rest).map (value ++ ·)
      | none => .error r.name := by
  obtain ⟨c, cs, hcs⟩ : ∃ c cs, r.written ++ rest = c :: cs := ⟨_, _, rfl⟩
  have hread : Reference.read? (c :: cs) = some (r, rest) := by
    rw [← hcs]
    exact Reference.read?_written hr rest
  rw [hcs, expandChars]
  split
  · rename_i read
    rw [hread] at read
    cases read
    rfl
  · rename_i hnone
    rw [hread] at hnone
    cases hnone

/-- Characters without a reference are kept. -/
theorem expandChars_eq_self {cs : List Char} (h : ¬HoldsReference cs) :
    expandChars env cs = .ok cs := by
  induction cs with
  | nil => rw [expandChars]
  | cons c cs ih =>
    have hcs : expandChars env cs = .ok cs := ih fun hcs => h (hcs.cons c)
    rw [expandChars_cons env fun hbegins => h hbegins.holdsReference, hcs]
    rfl

/-- A text without a reference is kept. -/
theorem expand_eq_self {s : String} (h : ¬HoldsReference s.toList) : expand env s = .ok s := by
  rw [expand, expandChars_eq_self env h]
  show Except.ok (String.ofList s.toList) = .ok s
  rw [String.ofList_toList]

end CiClient.Settings

namespace CiClient.Toml

/-- Entries whose values are kept are kept. -/
theorem expandEntries_eq_self (env : Settings.Environment) {entries : List (String × Toml)}
    (h : ∀ entry ∈ entries, entry.2.expand env = .ok entry.2) :
    expandEntries env entries = .ok entries := by
  induction entries with
  | nil => rw [expandEntries]
  | cons entry entries ih =>
    have hentry := h entry List.mem_cons_self
    have hentries := ih fun other hother => h other (List.mem_cons_of_mem entry hother)
    rw [expandEntries, hentry, hentries]
    rfl

end CiClient.Toml
