import CiClient.Json.Fault

/-!
# Shapes of records

A `Shape α` describes how a value of type `α` is written in JSON. A record shape lists the fields in
the order of declaration, each with its name, its own shape and what stands in for it when it is
left out. From that one description come a reader, `Shape.decode`, and a writer, `Shape.encode`.

A record is read from an object or from an array of its fields. In an object, members that are no
field are skipped, each field may occur once, and the fault that comes first in the text is
reported; what is missing is noticed at the end. In an array the fields stand in order; those left
out at the end need a default.

* `decodeText` reads a whole text, and `decodeJson` a value.
* An open record keeps the members that are no field.
-/

set_option autoImplicit false

namespace CiClient.Json

/-- Two ways to hold the same data: the tuple of a record's fields, and the record. -/
structure Packing (β α : Type) where
  pack : β → α
  unpack : α → β
  unpack_pack : ∀ fields, unpack (pack fields) = fields
  pack_unpack : ∀ record, pack (unpack record) = record

/-- What stands in for a field that is left out of an object, and of an array. -/
structure Absence (α : Type) where
  inObject : Option α
  inArray : Option α

namespace Absence

/-- The field has to be there. -/
def required {α : Type} : Absence α := ⟨none, none⟩

/-- The field has a default. -/
def default {α : Type} (value : α) : Absence α := ⟨some value, some value⟩

/-- The field may be left out of an object, but an array has to hold it. -/
def omitted {α : Type} (value : α) : Absence α := ⟨some value, none⟩

end Absence

mutual

/-- How values of a type are written. -/
inductive Shape : Type → Type 1 where
  | boolean : Shape Bool
  /-- An integer of 64 bits, sign included. -/
  | int64 : Shape Int64
  /-- An integer of 64 bits without sign. -/
  | nat64 : Shape UInt64
  | text : Shape String
  /-- Any value, kept as it is. -/
  | datum : Shape Datum
  /-- An object of any values. -/
  | dictionary : Shape Dictionary
  /-- One of some names; `names` lists them and `name` chooses one. -/
  | choice {α : Type} (names : List (String × α)) (name : α → String) : Shape α
  /-- A value or null. -/
  | optional {α : Type} (shape : Shape α) : Shape (Option α)
  /-- A value, or null in the place of a given one. -/
  | nullAs {α : Type} (value : α) (shape : Shape α) : Shape α
  | list {α : Type} (shape : Shape α) : Shape (List α)
  | record {α β : Type} (name : String) (fields : Fields β) (packing : Packing β α) : Shape α
  /-- A record that keeps the members that are no field. -/
  | openRecord {α β : Type} (name : String) (fields : Fields β)
    (packing : Packing (β × Dictionary) α) : Shape α

/-- The fields of a record, in the order of declaration. -/
inductive Fields : Type → Type 1 where
  | done : Fields Unit
  | field {α β : Type} (name : String) (shape : Shape α) (absence : Absence α)
    (rest : Fields β) : Fields (α × β)

end

namespace Fields

/-- The names of the fields. -/
def names : {β : Type} → Fields β → List String
  | _, .done => []
  | _, .field name _ _ rest => name :: rest.names

/-- How many fields there are. -/
def size {β : Type} (fields : Fields β) : Nat := fields.names.length

/-- A field that has to be there. -/
def required {α β : Type} (name : String) (shape : Shape α) (rest : Fields β) : Fields (α × β) :=
  .field name shape .required rest

/-- A field with a default. -/
def withDefault {α β : Type} (name : String) (shape : Shape α) (value : α) (rest : Fields β) :
    Fields (α × β) :=
  .field name shape (.default value) rest

/-- A field that may be null or left out. -/
def optional {α β : Type} (name : String) (shape : Shape α) (rest : Fields β) :
    Fields (Option α × β) :=
  .field name (.optional shape) (.default none) rest

/-- A field that may be null, or left out of an object. -/
def nullable {α β : Type} (name : String) (shape : Shape α) (rest : Fields β) :
    Fields (Option α × β) :=
  .field name (.optional shape) (.omitted none) rest

/-- A field with a list, which may be null or left out when it is empty. -/
def many {α β : Type} (name : String) (shape : Shape α) (rest : Fields β) :
    Fields (List α × β) :=
  .field name (.nullAs [] (.list shape)) (.default []) rest

end Fields

/-! ## Reading -/

/-- A fault with the number of the member at which it is noticed. -/
abbrev Located := Nat × Fault

/-- Of two outcomes the values, or the fault that comes first. -/
def both {α β : Type} : Except Located α → Except Located β → Except Located (α × β)
  | .ok a, .ok b => .ok (a, b)
  | .ok _, .error f => .error f
  | .error f, .ok _ => .error f
  | .error f, .error g => if g.1 < f.1 then .error g else .error f

/-- The members of an object, each with its number. -/
abbrev Numbered := List (Nat × Option String × Draft)

/-- Number members from a given one on. -/
def enumerate (start : Nat) : List (Option String × Draft) → Numbered
  | [] => []
  | member :: members => (start, member) :: enumerate (start + 1) members

/-- The members of a name. -/
def named (name : String) (members : Numbered) : Numbered :=
  members.filter fun member => member.2.1 == some name

/-- Check the members that are no field: their names have to be readable, and `good` says whether
a value is fine. -/
def checkOthers (fields : List String) (good : Draft → Bool) : Numbered → Except Located Unit
  | [] => .ok ()
  | (i, some name, value) :: members =>
    if fields.contains name || good value then checkOthers fields good members
    else .error (i, .malformed)
  | (i, none, _) :: _ => .error (i, .malformed)

/-- The members that are no field. -/
def others (fields : List String) : List (Option String × Draft) → List (String × Datum)
  | [] => []
  | (some name, value) :: members =>
    match value.datum? with
    | some datum =>
      if fields.contains name then others fields members
      else (name, datum) :: others fields members
    | none => others fields members
  | (none, _) :: members => others fields members

/-- An object that ends where it should; the fault is noticed after all members. -/
def checkClosed (count : Nat) (closed : Bool) : Except Located Unit :=
  if closed then .ok () else .error (count, .malformed)

/-- Read an integer of 64 bits, sign included. -/
def decodeInt64 : Draft → Except Fault Int64
  | .number (.integer n) =>
    if Text.fitsInt64 n then .ok (Int64.ofInt n)
    else .error (.invalidValue (.number (.integer n)) "i64")
  | d => .error (d.mismatch "i64")

/-- Read an integer of 64 bits without sign. -/
def decodeNat64 : Draft → Except Fault UInt64
  | .number (.integer n) =>
    if 0 ≤ n && n < (UInt64.size : Int) then .ok (UInt64.ofNat n.toNat)
    else .error (.invalidValue (.number (.integer n)) "u64")
  | d => .error (d.mismatch "u64")

/-- Read a truth value. -/
def decodeBoolean : Draft → Except Fault Bool
  | .boolean b => .ok b
  | d => .error (d.mismatch "a boolean")

/-- Read a string. -/
def decodeText : Draft → Except Fault String
  | .text s => .ok s
  | d => .error (d.mismatch "a string")

/-- Read any value. -/
def decodeDatum (d : Draft) : Except Fault Datum :=
  match d.datum? with
  | some datum => .ok datum
  | none => .error .malformed

/-- Read the values of an object's members. -/
def decodeMembers : List (Option String × Draft) → Except Fault (List (String × Datum))
  | [] => .ok []
  | (some name, value) :: members => do
    let datum ← decodeDatum value
    let members ← decodeMembers members
    .ok ((name, datum) :: members)
  | (none, _) :: _ => .error .malformed

/-- Read an object of which the names are not known in advance. -/
def decodeDictionary : Draft → Except Fault Dictionary
  | .object members closed => do
    let members ← decodeMembers members
    if closed then .ok (.ofList members) else .error .malformed
  | .deep (.object _ _) => .error .malformed
  | .keyless _ => .error .malformed
  | d => .error (d.mismatch "a map")

/-- The value that a name chooses. -/
def chosen {α : Type} (names : List (String × α)) (name : String) : Except Fault α :=
  match Members.get? names name with
  | some value => .ok value
  | none => .error (.unknownVariant name (names.map Prod.fst))

/-- Read one of some names: a string, or an object with that one name and null. -/
def decodeChoice {α : Type} (names : List (String × α)) : Draft → Except Fault α
  | .text s => chosen names s
  | .object ((some name, value) :: members) closed => do
    let choice ← chosen names name
    match value with
    | .null => if closed && members.isEmpty then .ok choice else .error .malformed
    | d => .error (d.mismatch "unit")
  | .keyless key => .error (key.mismatch "variant identifier")
  | _ => .error .malformed

/-- Read the items of an array one after the other. -/
def decodeItems {α : Type} (decode : Draft → Except Fault α) :
    List Draft → Except Fault (List α)
  | [] => .ok []
  | item :: items => do
    let value ← decode item
    let values ← decodeItems decode items
    .ok (value :: values)

/-- Read a field of an object. `count` is the number of members, and what is missing is noticed
after the end of the object. -/
def decodeField {α : Type} (decode : Draft → Except Fault α) (name : String)
    (absence : Absence α) (count : Nat) (members : Numbered) : Except Located α :=
  match named name members with
  | [] =>
    match absence.inObject with
    | some value => .ok value
    | none => .error (count + 1, .missingField name)
  | (i, _, value) :: later =>
    match decode value, later with
    | .error fault, _ => .error (i, fault)
    | .ok value, [] => .ok value
    | .ok _, (j, _) :: _ => .error (j, .duplicateField name)

/-- Forget where a fault is. -/
def unlocated {α : Type} : Except Located α → Except Fault α
  | .ok value => .ok value
  | .error fault => .error fault.2

/-- Read the members of an object as fields; `good` says which other values are fine. -/
def decodeObject {β : Type} (names : List String) (good : Draft → Bool)
    (decode : Nat → Numbered → Except Located β) (members : List (Option String × Draft))
    (closed : Bool) : Except Fault β :=
  let numbered := enumerate 0 members
  let count := members.length
  unlocated do
    let (_, fields) ← both (both (checkOthers names good numbered) (checkClosed count closed))
      (decode count numbered)
    .ok fields

mutual

/-- Read a value of a shape. -/
def Shape.decode : {α : Type} → Shape α → Draft → Except Fault α
  | _, .boolean, d => decodeBoolean d
  | _, .int64, d => decodeInt64 d
  | _, .nat64, d => decodeNat64 d
  | _, .text, d => decodeText d
  | _, .datum, d => decodeDatum d
  | _, .dictionary, d => decodeDictionary d
  | _, .choice names _, d => decodeChoice names d
  | _, .optional _, .null => .ok none
  | _, .optional shape, d => (shape.decode d).map some
  | _, .nullAs value _, .null => .ok value
  | _, .nullAs _ shape, d => shape.decode d
  | _, .list shape, .array items closed => do
    let values ← decodeItems shape.decode items
    if closed then .ok values else .error .malformed
  | _, .list _, .deep (.array _ _) => .error .malformed
  | _, .list _, d => .error (d.mismatch "a sequence")
  | _, .record _ fields packing, .object members closed =>
    (decodeObject fields.names Draft.isWellFormed fields.decode members closed).map packing.pack
  | _, .record name fields packing, .array items closed =>
    (fields.decodeArray name fields.size 0 items closed).map packing.pack
  | _, .record _ _ _, .deep (.object _ _) => .error .malformed
  | _, .record _ _ _, .keyless _ => .error .malformed
  | _, .record _ _ _, .deep (.array _ _) => .error .malformed
  | _, .record name _ _, d => .error (d.mismatch ("struct " ++ name))
  | _, .openRecord _ fields packing, .object members closed =>
    (decodeObject fields.names (fun d => d.datum?.isSome) fields.decode members closed).map
      fun values => packing.pack (values, .ofList (others fields.names members))
  | _, .openRecord _ _ _, .deep (.object _ _) => .error .malformed
  | _, .openRecord _ _ _, .keyless _ => .error .malformed
  | _, .openRecord name _ _, d => .error (d.mismatch ("struct " ++ name))

/-- Read fields from the members of an object. -/
def Fields.decode : {β : Type} → Fields β → Nat → Numbered → Except Located β
  | _, .done, _, _ => .ok ()
  | _, .field name shape absence rest, count, members =>
    both (decodeField shape.decode name absence count members) (rest.decode count members)

/-- Read fields from the items of an array, of which `index` have been read. -/
def Fields.decodeArray : {β : Type} → Fields β → String → Nat → Nat → List Draft → Bool →
    Except Fault β
  | _, .done, _, _, _, items, closed =>
    if items.isEmpty && closed then .ok () else .error .malformed
  | _, .field _ shape _ rest, record, size, index, item :: items, closed => do
    let value ← shape.decode item
    let values ← rest.decodeArray record size (index + 1) items closed
    .ok (value, values)
  | _, .field _ _ absence rest, record, size, index, [], closed =>
    if !closed then .error .malformed
    else match absence.inArray with
      | some value => do
        let values ← rest.decodeArray record size (index + 1) [] closed
        .ok (value, values)
      | none => .error (.invalidLength index record size)

end

/-- Read a JSON value. -/
def Shape.decodeJson {α : Type} (shape : Shape α) (j : Json) : Except Fault α :=
  shape.decode (.ofJson j)

/-- Read a JSON text; nothing may follow the value. -/
def Shape.decodeText {α : Type} (shape : Shape α) (s : String) : Except Fault α := do
  let document := Draft.ofText s
  let value ← shape.decode document.root
  if document.ends then .ok value else .error .malformed

/-! ## Writing -/

mutual

/-- Write a value of a shape. -/
def Shape.encode : {α : Type} → Shape α → α → Json
  | _, .boolean, b => .boolean b
  | _, .int64, n => .number (.integer n.toInt)
  | _, .nat64, n => .number (.integer n.toNat)
  | _, .text, s => .text s
  | _, .datum, d => d.json
  | _, .dictionary, d => d.toJson
  | _, .choice _ name, a => .text (name a)
  | _, .optional _, none => .null
  | _, .optional shape, some a => shape.encode a
  | _, .nullAs _ shape, a => shape.encode a
  | _, .list shape, as => .array (as.map shape.encode)
  | _, .record _ fields packing, a => .object (fields.encode (packing.unpack a))
  | _, .openRecord _ fields packing, a =>
    .object (fields.encode (packing.unpack a).1 ++
      (packing.unpack a).2.members.map fun (name, datum) => (name, datum.json))

/-- Write the fields of a record. -/
def Fields.encode : {β : Type} → Fields β → β → List (String × Json)
  | _, .done, _ => []
  | _, .field name shape _ rest, (a, b) => (name, shape.encode a) :: rest.encode b

end

end CiClient.Json
