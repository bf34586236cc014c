/-!
# Members in the order of their names

A collection of named members is a list of pairs whose names ascend, so no name occurs twice and
two collections with the same members are equal. `put` keeps that order and replaces a member of
the same name; `ofList` puts a list of pairs one by one, so the last one of a name stays.
-/

set_option autoImplicit false

namespace CiClient.Members

/-- The names of the members ascend. -/
def Sorted {α : Type} (members : List (String × α)) : Prop :=
  members.Pairwise fun a b => a.1 < b.1

/-- Put a member in its place, instead of the one that has its name. -/
def put {α : Type} (name : String) (value : α) : List (String × α) → List (String × α)
  | [] => [(name, value)]
  | member :: members =>
    if name < member.1 then (name, value) :: member :: members
    else if name = member.1 then (name, value) :: members
    else member :: put name value members

/-- The members of a list of pairs; of several with one name the last. -/
def ofList {α : Type} (pairs : List (String × α)) : List (String × α) :=
  pairs.foldl (fun members pair => put pair.1 pair.2 members) []

/-- The member of a name. -/
def get? {α : Type} (members : List (String × α)) (name : String) : Option α :=
  (members.find? fun member => member.1 == name).map Prod.snd

/-- Of two different names one comes before the other. -/
theorem lt_of_not_lt_of_ne {a b : String} (h : ¬a < b) (hne : a ≠ b) : b < a := by
  apply Classical.byContradiction
  intro h'
  exact hne (String.le_antisymm (String.not_lt.1 h') (String.not_lt.1 h))

/-- Every member after putting one is that one or was there before. -/
theorem mem_put {α : Type} {name : String} {value : α} {members : List (String × α)}
    {member : String × α} (h : member ∈ put name value members) :
    member = (name, value) ∨ member ∈ members := by
  induction members with
  | nil => simpa [put] using h
  | cons m ms ih =>
    simp only [put] at h
    split at h
    · simpa using h
    · split at h
      · rcases List.mem_cons.1 h with h | h
        · exact .inl h
        · exact .inr (List.mem_cons_of_mem _ h)
      · rcases List.mem_cons.1 h with h | h
        · exact .inr (h ▸ List.mem_cons_self)
        · exact (ih h).imp id (List.mem_cons_of_mem _)

/-- Putting a member keeps the names in order. -/
theorem sorted_put {α : Type} {name : String} {value : α} {members : List (String × α)}
    (h : Sorted members) : Sorted (put name value members) := by
  induction members with
  | nil => exact List.pairwise_singleton _ _
  | cons m ms ih =>
    have ⟨hm, hms⟩ := List.pairwise_cons.1 h
    simp only [put]
    split
    · rename_i hlt
      refine List.pairwise_cons.2 ⟨fun b hb => ?_, h⟩
      rcases List.mem_cons.1 hb with rfl | hb
      · exact hlt
      · exact String.lt_trans hlt (hm b hb)
    · split
      · rename_i heq
        exact List.pairwise_cons.2 ⟨fun b hb => heq ▸ hm b hb, hms⟩
      · rename_i hlt hne
        refine List.pairwise_cons.2 ⟨fun b hb => ?_, ih hms⟩
        rcases mem_put hb with rfl | hb
        · exact lt_of_not_lt_of_ne hlt hne
        · exact hm b hb

/-- Putting several members keeps the names in order. -/
theorem sorted_foldl_put {α : Type} {pairs members : List (String × α)} (h : Sorted members) :
    Sorted (pairs.foldl (fun members pair => put pair.1 pair.2 members) members) := by
  induction pairs generalizing members with
  | nil => exact h
  | cons pair pairs ih => exact ih (sorted_put h)

/-- The names of the members of any list of pairs ascend. -/
theorem sorted_ofList {α : Type} (pairs : List (String × α)) : Sorted (ofList pairs) :=
  sorted_foldl_put List.Pairwise.nil

/-- Every member after putting several is one of them or was there before. -/
theorem mem_foldl_put {α : Type} {pairs members : List (String × α)} {member : String × α}
    (h : member ∈ pairs.foldl (fun members pair => put pair.1 pair.2 members) members) :
    member ∈ pairs ∨ member ∈ members := by
  induction pairs generalizing members with
  | nil => exact .inr h
  | cons pair pairs ih =>
    rcases ih h with h | h
    · exact .inl (List.mem_cons_of_mem _ h)
    · rcases mem_put h with rfl | h
      · exact .inl List.mem_cons_self
      · exact .inr h

/-- Every member is one of the pairs. -/
theorem mem_of_mem_ofList {α : Type} {pairs : List (String × α)} {member : String × α}
    (h : member ∈ ofList pairs) : member ∈ pairs := by
  simpa using mem_foldl_put h

end CiClient.Members
