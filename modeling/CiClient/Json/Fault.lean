import CiClient.Json.Draft
import CiClient.Text.Quoted

/-!
# What can be wrong with a JSON text

A reader that expects a certain kind of value stops at the first fault: the text leaves the grammar,
or a part of it is not what it should be. `Fault.message` gives the wording.
-/

set_option autoImplicit false

namespace CiClient

/-- A number as messages show it. -/
def Json.Number.describe : Json.Number → String
  | .integer n => "integer \x60" ++ toString n ++ "\x60"
  | .double d => "floating point \x60" ++ Double.compact.render d ++ "\x60"

/-- What a reader met. -/
inductive Found where
  | null
  | boolean (b : Bool)
  | number (n : Json.Number)
  | text (s : String)
  | sequence
  | map
  deriving DecidableEq

/-- What a reader met, as messages show it. -/
def Found.describe : Found → String
  | null => "null"
  | boolean b => "boolean \x60" ++ (if b then "true" else "false") ++ "\x60"
  | number n => n.describe
  | text s => "string " ++ Text.quoted s
  | sequence => "sequence"
  | map => "map"

/-- The first problem that a reader met. -/
inductive Fault where
  /-- The text leaves the grammar, or a part that is read denotes no value. -/
  | malformed
  /-- A required member is not there. -/
  | missingField (name : String)
  /-- A known member occurs twice. -/
  | duplicateField (name : String)
  /-- A value of another kind was expected. -/
  | invalidType (found : Found) (expected : String)
  /-- A number is out of range. -/
  | invalidValue (found : Found) (expected : String)
  /-- A record written as an array has too few items. -/
  | invalidLength (length : Nat) (record : String) (size : Nat)
  /-- A name is none of those allowed. -/
  | unknownVariant (name : String) (allowed : List String)
  deriving DecidableEq

namespace Fault

/-- A name in back quotes. -/
def ticked (name : String) : String := "\x60" ++ name ++ "\x60"

/-- A number of elements. -/
def elements (n : Nat) : String := Nat.repr n ++ (if n = 1 then " element" else " elements")

/-- The wording of a fault. -/
def message : Fault → String
  | malformed => "malformed JSON"
  | missingField name => "missing field " ++ ticked name
  | duplicateField name => "duplicate field " ++ ticked name
  | invalidType found expected => "invalid type: " ++ found.describe ++ ", expected " ++ expected
  | invalidValue found expected =>
    "invalid value: " ++ found.describe ++ ", expected " ++ expected
  | invalidLength length record size =>
    "invalid length " ++ Nat.repr length ++ ", expected struct " ++ record ++ " with " ++
      elements size
  | unknownVariant name allowed =>
    "unknown variant " ++ ticked name ++ ", expected one of " ++
      String.intercalate ", " (allowed.map ticked)

end Fault

namespace Json.Draft

/-- The fault of a part that is not of the expected kind. A container is not looked into. -/
def mismatch (expected : String) : Draft → Fault
  | .null => .invalidType .null expected
  | .boolean b => .invalidType (.boolean b) expected
  | .number n => .invalidType (.number n) expected
  | .text s => .invalidType (.text s) expected
  | .array _ _ => .invalidType .sequence expected
  | .object _ _ => .invalidType .map expected
  | .unreadable => .malformed
  | .deep content => content.mismatch expected
  | .keyless _ => .invalidType .map expected
  | .broken => .malformed

end Json.Draft
end CiClient
