import CiClient.Http.Headers

/-!
# What is in a header list

`insert` sets one name to exactly one value and leaves the values of all other names alone; where
the name has this value already, and no other, nothing changes at all. A value that is readable may
be sent, and so may every part of one.
-/

set_option autoImplicit false

namespace CiClient.Http.Headers

/-! ## Setting a field -/

/-- The fields of the name that is set are the new one only. -/
theorem filter_insertField_self (name value : String) (fields : List (String × String)) :
    (insertField name value fields).filter (·.1 == name) = [(name, value)] := by
  induction fields with
  | nil => simp [insertField]
  | cons field fields ih =>
    by_cases h : field.1 = name
    · have hnone : (fields.filter fun other => other.1 != name).filter (·.1 == name) = [] := by
        rw [List.filter_filter, List.filter_eq_nil_iff]
        intro other _
        simp
      simp [insertField, h, hnone]
    · simp [insertField, h, ih]

/-- Setting one name leaves the fields of every other alone. -/
theorem filter_insertField_of_ne {name other : String} (hne : other ≠ name) (value : String)
    (fields : List (String × String)) :
    (insertField name value fields).filter (·.1 == other) = fields.filter (·.1 == other) := by
  induction fields with
  | nil => simp [insertField, Ne.symm hne]
  | cons field fields ih =>
    by_cases h : field.1 = name
    · have hkeep : (fields.filter fun f => f.1 != name).filter (·.1 == other) =
          fields.filter (·.1 == other) := by
        rw [List.filter_filter]
        apply List.filter_congr
        intro f _
        by_cases hf : f.1 = other
        · simp [hf, hne]
        · simp [hf]
      have hfield : field.1 ≠ other := fun heq => hne (heq ▸ h)
      simp [insertField, h, hkeep, Ne.symm hne]
    · simp only [insertField, if_neg h, List.filter_cons, ih]

/-- The name that is set has the new value and no other. -/
theorem getAll_insert_self (h : Headers) (name value : String) :
    (h.insert name value).getAll name = [value] := by
  simp [getAll, insert, filter_insertField_self]

/-- Setting one name leaves the values of every other alone. -/
theorem getAll_insert_of_ne (h : Headers) {name other : String} (hne : lower other ≠ lower name)
    (value : String) : (h.insert name value).getAll other = h.getAll other := by
  simp [getAll, insert, filter_insertField_of_ne hne]

/-- Setting the only field of a name to its value changes nothing. -/
theorem insertField_eq_self {name value : String} {fields : List (String × String)}
    (h : fields.filter (·.1 == name) = [(name, value)]) :
    insertField name value fields = fields := by
  induction fields with
  | nil => cases h
  | cons field fields ih =>
    by_cases hfield : field.1 = name
    · -- the first field of the name is the only one, so none is dropped after it
      rw [List.filter_cons_of_pos (by simpa using hfield)] at h
      obtain ⟨hhead, hnone⟩ := List.cons.inj h
      have hkeep : (fields.filter fun other => other.1 != name) = fields := by
        rw [List.filter_eq_self]
        intro other hother
        have hne := List.filter_eq_nil_iff.mp hnone other hother
        simpa using hne
      rw [insertField, if_pos hfield, hkeep, hhead]
    · rw [List.filter_cons_of_neg (by simpa using hfield)] at h
      rw [insertField, if_neg hfield, ih h]

/-- Setting a name to the only value that it has changes nothing. -/
theorem insert_eq_self {h : Headers} {name value : String} (hone : h.getAll name = [value]) :
    h.insert name value = h := by
  have hfields : h.fields.filter (·.1 == lower name) = [(lower name, value)] := by
    obtain ⟨field, hfield, hvalue⟩ := List.map_eq_singleton_iff.mp hone
    have hmem : field ∈ h.fields.filter (·.1 == lower name) := by
      rw [hfield]
      exact List.mem_singleton_self field
    have hname : field.1 = lower name := by
      simpa using (List.mem_filter.mp hmem).2
    rw [hfield, ← hname, ← hvalue]
  rw [insert, insertField_eq_self hfields]

/-! ## Values that may be sent -/

/-- A value may be sent when it holds no control character but the tab. -/
theorem isLegal_iff {value : String} :
    isLegal value = true ↔ ∀ c ∈ value.toList, c = '\t' ∨ 0x20 ≤ c.toNat ∧ c.toNat ≠ 0x7F := by
  simp [isLegal]

/-- A value that is readable may be sent. -/
theorem isLegal_of_isReadable {value : String} (h : isReadable value = true) :
    isLegal value = true := by
  rw [isLegal_iff]
  intro c hc
  simp only [isReadable, List.all_eq_true, Bool.or_eq_true, beq_iff_eq, Bool.and_eq_true,
    decide_eq_true_eq] at h
  rcases h c hc with h | h
  · exact Or.inl h
  · exact Or.inr (by omega)

/-- A part of a value that may be sent may be sent. -/
theorem isLegal_of_subset {value whole : String} (h : isLegal whole = true)
    (hsub : ∀ c ∈ value.toList, c ∈ whole.toList) : isLegal value = true := by
  rw [isLegal_iff] at h ⊢
  exact fun c hc => h c (hsub c hc)

end CiClient.Http.Headers
