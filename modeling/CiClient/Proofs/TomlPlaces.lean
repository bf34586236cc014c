import Mathlib.Data.List.Basic
import CiClient.Toml.Basic

/-!
# Places within a value

Tables are entered by their keys and arrays by the positions of their items. A `Place` is a way into
a value, and places are ordered as their parts are walked: tables by ascending keys, arrays by
position.

Arrays and tables are treated alike, as values with `children`. A value ascends if the steps to its
children do, and if its children ascend, which is to say that the keys of every table in it are in
order. Then each child is found by its step.
-/

set_option autoImplicit false

namespace CiClient.Toml

/-! ## Places -/

/-- A step into a table or into an array. -/
inductive Step where
  | key (name : String)
  | item (index : Nat)
  deriving DecidableEq

/-- Of the steps into one value, the one that is taken first. -/
inductive Step.Precedes : Step → Step → Prop where
  | key {a b : String} (h : a < b) : Precedes (.key a) (.key b)
  | item {i j : Nat} (h : i < j) : Precedes (.item i) (.item j)

/-- Of two steps only one can come first. -/
theorem Step.Precedes.asymm {a b : Step} (h : a.Precedes b) : ¬ b.Precedes a := by
  intro h'
  cases h with
  | key h =>
    cases h' with
    | key h' => exact String.lt_asymm h h'
  | item h =>
    cases h' with
    | item h' => exact Nat.lt_asymm h h'

/-- A step does not come before itself. -/
theorem Step.Precedes.ne {a b : Step} (h : a.Precedes b) : a ≠ b := by
  rintro rfl
  exact h.asymm h

/-- A way into a value. -/
abbrev Place := List Step

/-- Of the places within one value, the one that is reached first. -/
def Place.Precedes (p q : Place) : Prop := List.Lex Step.Precedes p q

/-- The parts of a value, each with the step that leads to it. -/
def children : Toml → List (Step × Toml)
  | .array items => items.mapIdx fun index item => (.item index, item)
  | .table entries => entries.map fun (key, value) => (.key key, value)
  | _ => []

/-- The part of a value that a step leads to. -/
def child? (v : Toml) (step : Step) : Option Toml :=
  (v.children.find? fun child => child.1 = step).map Prod.snd

/-- What a value holds at a place. -/
def at? (v : Toml) : Place → Option Toml
  | [] => some v
  | step :: place => (v.child? step).bind fun child => child.at? place

/-- At the place without steps is the value itself. -/
@[simp] theorem at?_nil (v : Toml) : v.at? [] = some v := rfl

/-- A place is entered by its first step. -/
@[simp] theorem at?_cons (v : Toml) (step : Step) (place : Place) :
    v.at? (step :: place) = (v.child? step).bind fun child => child.at? place := rfl

/-! ## Ascending values -/

/-- The keys of all tables within a value ascend. -/
inductive Ascends : Toml → Prop where
  | intro {v : Toml} (hsteps : v.children.Pairwise fun a b => a.1.Precedes b.1)
      (hchildren : ∀ child ∈ v.children, Ascends child.2) : Ascends v

variable {v : Toml}

/-- In an ascending value the steps to the children are in order. -/
theorem Ascends.steps (h : v.Ascends) : v.children.Pairwise fun a b => a.1.Precedes b.1 := by
  cases h with
  | intro hsteps hchildren => exact hsteps

/-- A value without children ascends. -/
theorem ascends_of_children_eq_nil (h : v.children = []) : v.Ascends := by
  constructor
  · simp [h]
  · simp [h]

/-- An array ascends when its items do. -/
theorem ascends_array_iff {items : List Toml} :
    (array items).Ascends ↔ ∀ item ∈ items, item.Ascends := by
  constructor
  · rintro ⟨-, hchildren⟩ item hitem
    obtain ⟨index, hindex, rfl⟩ := List.getElem_of_mem hitem
    exact hchildren (.item index, items[index]) (List.mem_mapIdx.mpr ⟨index, hindex, rfl⟩)
  · intro hitems
    constructor
    · simp only [children, List.pairwise_iff_getElem, List.getElem_mapIdx]
      intro i j _ _ hij
      exact .item hij
    · intro child hchild
      obtain ⟨index, hindex, rfl⟩ := List.mem_mapIdx.mp hchild
      exact hitems _ (List.getElem_mem hindex)

/-- A table ascends when its keys are in order and its values ascend. -/
theorem ascends_table_iff {entries : List (String × Toml)} :
    (table entries).Ascends ↔
      Members.Sorted entries ∧ ∀ entry ∈ entries, entry.2.Ascends := by
  have hsteps : (table entries).children.Pairwise (fun a b => a.1.Precedes b.1) ↔
      Members.Sorted entries := by
    rw [children, List.pairwise_map]
    refine ⟨fun h => h.imp ?_, fun h => h.imp .key⟩
    rintro a b ⟨h⟩
    exact h
  constructor
  · rintro ⟨h, hchildren⟩
    exact ⟨hsteps.mp h, fun entry hentry =>
      hchildren (.key entry.1, entry.2) (List.mem_map.mpr ⟨entry, hentry, rfl⟩)⟩
  · rintro ⟨hsorted, hentries⟩
    refine ⟨hsteps.mpr hsorted, ?_⟩
    intro child hchild
    obtain ⟨entry, hentry, rfl⟩ := List.mem_map.mp hchild
    exact hentries entry hentry

/-- Each child of an ascending value is found by its step. -/
theorem Ascends.child?_eq_some_iff (h : v.Ascends) {step : Step} {child : Toml} :
    v.child? step = some child ↔ (step, child) ∈ v.children := by
  rw [child?, Option.map_eq_some_iff]
  constructor
  · rintro ⟨found, hfound, rfl⟩
    have hstep := List.find?_some hfound
    rw [decide_eq_true_eq] at hstep
    exact hstep ▸ List.mem_of_find?_eq_some hfound
  · intro hmem
    obtain ⟨before, after, hsplit⟩ := List.append_of_mem hmem
    have hsteps := h.steps
    rw [hsplit, List.pairwise_append] at hsteps
    refine ⟨(step, child), List.find?_eq_some_iff_append.mpr ?_, rfl⟩
    refine ⟨decide_eq_true rfl, before, after, hsplit, ?_⟩
    intro other hother
    have hprecedes : other.1.Precedes step := hsteps.2.2 other hother _ List.mem_cons_self
    simp [hprecedes.ne]

/-- The children before a child are those of which the steps precede its step. -/
theorem Ascends.mem_before_iff (h : v.Ascends) {step : Step} {child : Toml}
    {before after : List (Step × Toml)} (hsplit : v.children = before ++ (step, child) :: after)
    {other : Step × Toml} (hother : other ∈ v.children) :
    other ∈ before ↔ other.1.Precedes step := by
  have hsteps := h.steps
  rw [hsplit, List.pairwise_append] at hsteps
  obtain ⟨-, hafter, hbefore⟩ := hsteps
  rw [hsplit] at hother
  constructor
  · intro hmem
    exact hbefore other hmem _ List.mem_cons_self
  · intro hprecedes
    rcases List.mem_append.mp hother with hmem | hmem
    · exact hmem
    · rcases List.mem_cons.mp hmem with rfl | hmem
      · exact absurd rfl hprecedes.ne
      · exact absurd (List.rel_of_pairwise_cons hafter hmem) hprecedes.asymm

end CiClient.Toml
