import CiClient.Members
import CiClient.Number.Double

/-!
# TOML values

The value that a TOML document denotes. The keys of a table ascend. A date or time is kept by its
text in a fixed form. Whether two values are equal can be decided, so what a document denotes can be
computed and compared.
-/

set_option autoImplicit false

namespace CiClient

/-- A TOML value. -/
inductive Toml where
  | text (s : String)
  | integer (n : Int64)
  | double (d : Double)
  | boolean (b : Bool)
  /-- A date, a time, or both, in its fixed form. -/
  | moment (s : String)
  | array (items : List Toml)
  | table (entries : List (String × Toml))

namespace Toml

/-- The value of a key of a table; other values have none. -/
def get? : Toml → String → Option Toml
  | .table entries, key => Members.get? entries key
  | _, _ => none

/-! ## Equality -/

mutual

/-- Whether two values are the same. -/
def same : Toml → Toml → Bool
  | .text s, .text t => s == t
  | .integer m, .integer n => m == n
  | .double d, .double e => d == e
  | .boolean b, .boolean c => b == c
  | .moment s, .moment t => s == t
  | .array items, .array others => sameItems items others
  | .table entries, .table others => sameEntries entries others
  | _, _ => false

/-- Whether two lists hold the same values. -/
def sameItems : List Toml → List Toml → Bool
  | [], [] => true
  | item :: items, other :: others => item.same other && sameItems items others
  | _, _ => false

/-- Whether two lists hold the same values under the same keys. -/
def sameEntries : List (String × Toml) → List (String × Toml) → Bool
  | [], [] => true
  | (key, value) :: entries, (key', value') :: others =>
    key == key' && value.same value' && sameEntries entries others
  | _, _ => false

end

mutual

/-- Values are the same exactly when they are equal. -/
theorem same_iff : (a b : Toml) → (a.same b = true ↔ a = b)
  | .text s, b => by cases b <;> simp [same]
  | .integer n, b => by cases b <;> simp [same]
  | .double d, b => by cases b <;> simp [same]
  | .boolean c, b => by cases b <;> simp [same]
  | .moment s, b => by cases b <;> simp [same]
  | .array items, b => by
    cases b with
    | array others => rw [same, sameItems_iff items others, Toml.array.injEq]
    | _ => simp [same]
  | .table entries, b => by
    cases b with
    | table others => rw [same, sameEntries_iff entries others, Toml.table.injEq]
    | _ => simp [same]

/-- Lists hold the same values exactly when they are equal. -/
theorem sameItems_iff : (items others : List Toml) →
    (sameItems items others = true ↔ items = others)
  | [], others => by cases others <;> simp [sameItems]
  | item :: items, others => by
    cases others with
    | nil => simp [sameItems]
    | cons other others =>
      rw [sameItems, Bool.and_eq_true, same_iff item other, sameItems_iff items others,
        List.cons.injEq]

/-- Lists hold the same values under the same keys exactly when they are equal. -/
theorem sameEntries_iff : (entries others : List (String × Toml)) →
    (sameEntries entries others = true ↔ entries = others)
  | [], others => by cases others <;> simp [sameEntries]
  | (key, value) :: entries, others => by
    cases others with
    | nil => simp [sameEntries]
    | cons other others =>
      obtain ⟨key', value'⟩ := other
      rw [sameEntries, Bool.and_eq_true, Bool.and_eq_true, beq_iff_eq, same_iff value value',
        sameEntries_iff entries others, List.cons.injEq, Prod.mk.injEq]

end

/-- Whether two values are equal is decided by comparing them part by part. -/
instance : DecidableEq Toml := fun a b => decidable_of_iff (a.same b = true) (same_iff a b)

end Toml
end CiClient
