import Mathlib.Data.List.Nodup
import CiClient.Members

/-!
# Members with distinct names

Where all names are distinct, `ofList` loses no member and only puts them in order. So it forgets
the order in which they stood, and it leaves alone what is in order already.
-/

set_option autoImplicit false

namespace CiClient.Members

variable {α : Type}

/-- No name occurs twice. -/
def Distinct (members : List (String × α)) : Prop := (members.map Prod.fst).Nodup

/-- Names that ascend are distinct. -/
theorem Sorted.distinct {members : List (String × α)} (h : Sorted members) : Distinct members := by
  rw [Distinct, List.Nodup, List.pairwise_map]
  exact h.imp fun hlt heq => absurd (heq ▸ hlt) (String.lt_irrefl _)

/-- The same members in order are the same list. -/
theorem Sorted.eq_of_perm {as bs : List (String × α)} (ha : Sorted as) (hb : Sorted bs)
    (h : as.Perm bs) : as = bs := by
  refine h.eq_of_pairwise ?_ ha hb
  intro a b _ _ hab hba
  exact absurd (String.lt_trans hab hba) (String.lt_irrefl _)

/-- A member of a new name is added, and no other is lost. -/
theorem perm_put {name : String} (value : α) {members : List (String × α)}
    (h : name ∉ members.map Prod.fst) :
    (put name value members).Perm ((name, value) :: members) := by
  induction members with
  | nil => rfl
  | cons member members ih =>
    simp only [List.map_cons, List.mem_cons, not_or] at h
    simp only [put]
    split
    · rfl
    · rw [if_neg h.1]
      exact ((ih h.2).cons member).trans (List.Perm.swap _ _ _)

/-- Putting members with distinct new names adds them all, and no other is lost. -/
theorem perm_foldl_put {pairs members : List (String × α)} (h : Distinct (pairs ++ members)) :
    (pairs.foldl (fun members pair => put pair.1 pair.2 members) members).Perm
      (pairs ++ members) := by
  induction pairs generalizing members with
  | nil => rfl
  | cons pair pairs ih =>
    have hnew : pair.1 ∉ (pairs ++ members).map Prod.fst := (List.nodup_cons.mp h).1
    have hput : (put pair.1 pair.2 members).Perm (pair :: members) := by
      refine perm_put pair.2 fun hmem => hnew ?_
      rw [List.map_append]
      exact List.mem_append_right _ hmem
    have hmiddle : (pairs ++ put pair.1 pair.2 members).Perm (pair :: (pairs ++ members)) :=
      (hput.append_left pairs).trans List.perm_middle
    exact (ih ((hmiddle.map Prod.fst).nodup_iff.mpr h)).trans hmiddle

/-- Of pairs with distinct names every one becomes a member. -/
theorem perm_ofList {pairs : List (String × α)} (h : Distinct pairs) :
    (ofList pairs).Perm pairs := by
  have hpairs : Distinct (pairs ++ []) := by rwa [List.append_nil]
  have hperm := perm_foldl_put hpairs
  rwa [List.append_nil] at hperm

/-- The order in which members with distinct names stood is forgotten. -/
theorem ofList_eq_of_perm {as bs : List (String × α)} (ha : Distinct as) (h : as.Perm bs) :
    ofList as = ofList bs := by
  have hb : Distinct bs := (h.map Prod.fst).nodup_iff.mp ha
  refine (sorted_ofList as).eq_of_perm (sorted_ofList bs) ?_
  exact ((perm_ofList ha).trans h).trans (perm_ofList hb).symm

/-- Members in order stay as they are. -/
theorem ofList_of_sorted {members : List (String × α)} (h : Sorted members) :
    ofList members = members :=
  (sorted_ofList members).eq_of_perm h (perm_ofList h.distinct)

end CiClient.Members
