import CiClient.Members
import CiClient.Number.Double

/-!
# JSON values

A JSON value. Numbers are integers where the text holds one of 64 bits, and doubles otherwise. The
members of an object are a list of pairs; `Canonical` says that the names ascend in every object
within, which makes a value independent of the order in which its members were written. A `Datum` is
a canonical value: what a record keeps of a part that it does not look into.
-/

set_option autoImplicit false

namespace CiClient

/-- A number: an integer between `-2 ^ 63` and `2 ^ 64 - 1`, or a double. -/
inductive Json.Number where
  | integer (n : Int)
  | double (d : Double)
  deriving DecidableEq

/-- A JSON value. -/
inductive Json where
  | null
  | boolean (b : Bool)
  | number (n : Json.Number)
  | text (s : String)
  | array (items : List Json)
  | object (members : List (String × Json))

namespace Json

mutual

/-- In every object within a value the names ascend. -/
def Canonical : Json → Prop
  | .null => True
  | .boolean _ => True
  | .number _ => True
  | .text _ => True
  | .array items => CanonicalItems items
  | .object members => Members.Sorted members ∧ CanonicalMembers members

/-- All items are canonical. -/
def CanonicalItems : List Json → Prop
  | [] => True
  | item :: items => item.Canonical ∧ CanonicalItems items

/-- The values of all members are canonical. -/
def CanonicalMembers : List (String × Json) → Prop
  | [] => True
  | (_, value) :: members => value.Canonical ∧ CanonicalMembers members

end

/-- Items are canonical when each of them is. -/
theorem canonicalItems_iff {items : List Json} :
    CanonicalItems items ↔ ∀ item ∈ items, item.Canonical := by
  induction items with
  | nil => simp [CanonicalItems]
  | cons item items ih => simp [CanonicalItems, ih]

/-- Members have canonical values when each of them has. -/
theorem canonicalMembers_iff {members : List (String × Json)} :
    CanonicalMembers members ↔ ∀ member ∈ members, member.2.Canonical := by
  induction members with
  | nil => simp [CanonicalMembers]
  | cons member members ih => obtain ⟨name, value⟩ := member; simp [CanonicalMembers, ih]

/-- An array is canonical when its items are. -/
theorem canonical_array_iff {items : List Json} :
    (array items).Canonical ↔ ∀ item ∈ items, item.Canonical := by
  rw [Canonical, canonicalItems_iff]

/-- An object is canonical when its names ascend and its values are canonical. -/
theorem canonical_object_iff {members : List (String × Json)} :
    (object members).Canonical ↔
      Members.Sorted members ∧ ∀ member ∈ members, member.2.Canonical := by
  rw [Canonical, canonicalMembers_iff]

end Json

/-- A canonical value. -/
structure Datum where
  json : Json
  canonical : json.Canonical

namespace Datum

/-- The canonical value null. -/
def null : Datum := ⟨.null, by simp [Json.Canonical]⟩

end Datum

/-- Named canonical values, the names ascending. -/
structure Dictionary where
  members : List (String × Datum)
  sorted : Members.Sorted members

namespace Dictionary

/-- The dictionary without members. -/
def empty : Dictionary := ⟨[], List.Pairwise.nil⟩

/-- The dictionary of a list of pairs; of several with one name the last. -/
def ofList (pairs : List (String × Datum)) : Dictionary :=
  ⟨Members.ofList pairs, Members.sorted_ofList pairs⟩

/-- A dictionary as a JSON object. -/
def toJson (d : Dictionary) : Json :=
  .object (d.members.map fun (name, datum) => (name, datum.json))

end Dictionary
end CiClient
