import CiClient.Text.Blank

/-!
# Header lists

A header list keeps its fields in order and may hold several of one name. Names do not depend on
case; they are held in lower case. `insert` leaves exactly one field of the given name, in the
place of the first one or at the end.
-/

set_option autoImplicit false

namespace CiClient.Http

/-- Header fields in order, each a lower-case name and a value. -/
structure Headers where
  fields : List (String × String)
  deriving DecidableEq

namespace Headers

/-- A field name in lower case. -/
def lower (name : String) : String := String.ofList (name.toList.map Char.toLower)

/-- No header fields. -/
def empty : Headers := ⟨[]⟩

/-- A header list with the given fields. -/
def ofList (fields : List (String × String)) : Headers :=
  ⟨fields.map fun (name, value) => (lower name, value)⟩

/-- The values of a name, in order. -/
def getAll (h : Headers) (name : String) : List String :=
  (h.fields.filter fun field => field.1 == lower name).map Prod.snd

/-- The first value of a name. -/
def get? (h : Headers) (name : String) : Option String := (h.getAll name).head?

/-- Put one value for a name in the place of the first one, and drop the others. -/
def insertField (name value : String) : List (String × String) → List (String × String)
  | [] => [(name, value)]
  | field :: fields =>
    if field.1 = name then (name, value) :: fields.filter fun other => other.1 != name
    else field :: insertField name value fields

/-- Set a name to exactly one value. -/
def insert (h : Headers) (name value : String) : Headers :=
  ⟨insertField (lower name) value h.fields⟩

/-- A value is readable as text when it holds visible ASCII characters, spaces and tabs only. -/
def isReadable (value : String) : Bool :=
  value.toList.all fun c => c == '\t' || (0x20 ≤ c.toNat && c.toNat ≤ 0x7E)

/-- A value may be sent when it holds no control character but the tab. -/
def isLegal (value : String) : Bool :=
  value.toList.all fun c => c == '\t' || (0x20 ≤ c.toNat && c.toNat != 0x7F)

/-- The first value of a name as trimmed text; nothing when it is not readable, whatever comes
after it. -/
def text? (h : Headers) (name : String) : Option String :=
  (h.get? name).bind fun value => if isReadable value then some (Text.trim value) else none

end Headers
end CiClient.Http
