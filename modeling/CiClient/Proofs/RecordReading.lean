import CiClient.Json.Shape
import CiClient.Proofs.DistinctMembers
import CiClient.Proofs.ErrorSteps

/-!
# When a record can be read

`Fields.decode` numbers the members of an object, so that of several faults the first is reported.
For what is read when there is none, the numbers do not matter. `Fields.Reads` says it without them:
each field has its value from the one member of its name, or from its default when there is no such
member. The lemmas at the end say for every shape what it reads from a JSON value; proofs about
reading start from these.
-/

set_option autoImplicit false

namespace CiClient.Json

/-! ## Values taken apart -/

namespace Draft

mutual

/-- A value that is taken apart can be put together again. It comes back with the names of every
object in order, so it comes back the same when they were. -/
theorem exists_json?_ofJson (j : Json) :
    ∃ k, (ofJson j).json? = some k ∧ (j.Canonical → k = j) := by
  cases j with
  | null => exact ⟨.null, rfl, fun _ => rfl⟩
  | boolean b => exact ⟨.boolean b, rfl, fun _ => rfl⟩
  | number n => exact ⟨.number n, rfl, fun _ => rfl⟩
  | text s => exact ⟨.text s, rfl, fun _ => rfl⟩
  | array items =>
    obtain ⟨ks, hks, hsame⟩ := exists_items?_ofItems items
    refine ⟨.array ks, by simp [ofJson, json?, hks], fun h => ?_⟩
    rw [hsame (canonical_array_iff.mp h)]
  | object members =>
    obtain ⟨ms, hms, hsame⟩ := exists_members?_ofMembers members
    refine ⟨.object (Members.ofList ms), by simp [ofJson, json?, hms], fun h => ?_⟩
    obtain ⟨hsorted, hvalues⟩ := canonical_object_iff.mp h
    rw [hsame hvalues, Members.ofList_of_sorted hsorted]

/-- The items of an array can be put together again. -/
theorem exists_items?_ofItems (items : List Json) :
    ∃ ks, items? (ofItems items) = some ks ∧ ((∀ item ∈ items, item.Canonical) → ks = items) := by
  cases items with
  | nil => exact ⟨[], rfl, fun _ => rfl⟩
  | cons item items =>
    obtain ⟨k, hk, hfirst⟩ := exists_json?_ofJson item
    obtain ⟨ks, hks, hrest⟩ := exists_items?_ofItems items
    refine ⟨k :: ks, by simp [ofItems, items?, hk, hks], fun h => ?_⟩
    rw [List.forall_mem_cons] at h
    rw [hfirst h.1, hrest h.2]

/-- The members of an object can be put together again. -/
theorem exists_members?_ofMembers (members : List (String × Json)) :
    ∃ ms, members? (ofMembers members) = some ms ∧
      ((∀ member ∈ members, member.2.Canonical) → ms = members) := by
  cases members with
  | nil => exact ⟨[], rfl, fun _ => rfl⟩
  | cons member members =>
    obtain ⟨name, value⟩ := member
    obtain ⟨k, hk, hfirst⟩ := exists_json?_ofJson value
    obtain ⟨ms, hms, hrest⟩ := exists_members?_ofMembers members
    refine ⟨(name, k) :: ms, by simp [ofMembers, members?, hk, hms], fun h => ?_⟩
    rw [List.forall_mem_cons] at h
    rw [hfirst h.1, hrest h.2]

end

mutual

/-- What a value is taken apart into is well-formed. -/
theorem isWellFormed_ofJson (j : Json) : (ofJson j).isWellFormed = true := by
  cases j with
  | null => rfl
  | boolean b => rfl
  | number n => rfl
  | text s => rfl
  | array items => simp [ofJson, isWellFormed, areWellFormed_ofItems items]
  | object members => simp [ofJson, isWellFormed, haveWellFormedValues_ofMembers members]

/-- So are the items of an array. -/
theorem areWellFormed_ofItems (items : List Json) : areWellFormed (ofItems items) = true := by
  cases items with
  | nil => rfl
  | cons item items =>
    simp [ofItems, areWellFormed, isWellFormed_ofJson item, areWellFormed_ofItems items]

/-- So are the values of the members of an object. -/
theorem haveWellFormedValues_ofMembers (members : List (String × Json)) :
    haveWellFormedValues (ofMembers members) = true := by
  cases members with
  | nil => rfl
  | cons member members =>
    obtain ⟨name, value⟩ := member
    simp [ofMembers, haveWellFormedValues, isWellFormed_ofJson value,
      haveWellFormedValues_ofMembers members]

end

/-- The items of an array are taken apart one by one. -/
theorem ofItems_eq_map (items : List Json) : ofItems items = items.map ofJson := by
  induction items with
  | nil => rfl
  | cons item items ih => rw [ofItems, ih, List.map_cons]

/-- Each member keeps its name while its value is taken apart. -/
theorem ofMembers_eq_map (members : List (String × Json)) :
    ofMembers members = members.map fun member => (some member.1, ofJson member.2) := by
  induction members with
  | nil => rfl
  | cons member members ih =>
    obtain ⟨name, value⟩ := member
    rw [ofMembers, ih, List.map_cons]

/-- What is kept of a draft is the value that it can be put together to. -/
theorem datum?_eq_some_iff {d : Draft} {datum : Datum} :
    d.datum? = some datum ↔ d.json? = some datum.json := by
  obtain ⟨j, hj⟩ := datum
  unfold datum?
  split
  · rename_i k hk
    simp [hk]
  · rename_i hk
    simp [hk]

/-- What a value is taken apart into can be kept. -/
theorem isSome_datum?_ofJson (j : Json) : (ofJson j).datum?.isSome = true := by
  obtain ⟨k, hk, -⟩ := exists_json?_ofJson j
  have hdatum : (ofJson j).datum? = some ⟨k, canonical_of_json? hk⟩ := datum?_eq_some_iff.mpr hk
  rw [hdatum]
  rfl

end Draft

/-- A value with the names of every object in order. -/
def inOrder (j : Json) : Datum := (Draft.ofJson j).datum?.get (Draft.isSome_datum?_ofJson j)

/-- What is kept of a value is the value with its names in order. -/
theorem datum?_ofJson (j : Json) : (Draft.ofJson j).datum? = some j.inOrder := by
  rw [inOrder, Option.some_get]

/-- A canonical value is in order already. -/
theorem inOrder_json (datum : Datum) : datum.json.inOrder = datum := by
  obtain ⟨k, hk, hsame⟩ := Draft.exists_json?_ofJson datum.json
  have hdatum : (Draft.ofJson datum.json).datum? = some datum := by
    rw [Draft.datum?_eq_some_iff, hk, hsame datum.canonical]
  rw [datum?_ofJson] at hdatum
  exact Option.some.inj hdatum

/-! ## Items and members -/

/-- Items are read when each of them is. -/
theorem decodeItems_eq_ok_iff {α : Type} {decode : Draft → Except Fault α} {items : List Draft}
    {values : List α} :
    decodeItems decode items = .ok values ↔
      List.Forall₂ (fun item value => decode item = .ok value) items values := by
  induction items generalizing values with
  | nil => simp [decodeItems, eq_comm]
  | cons item items ih =>
    simp only [decodeItems, do_bind_eq_ok_iff, List.forall₂_cons_left_iff, ih]
    constructor
    · rintro ⟨value, hvalue, rest, hrest, heq⟩
      cases heq
      exact ⟨value, rest, hvalue, hrest, rfl⟩
    · rintro ⟨value, rest, hvalue, hrest, rfl⟩
      exact ⟨value, hvalue, rest, hrest, rfl⟩

/-- The values of the members of a name. -/
def valuesOf (name : String) (members : List (Option String × Draft)) : List Draft :=
  (members.filter fun member => member.1 == some name).map Prod.snd

/-- A member of the name adds its value. -/
theorem valuesOf_cons_self (name : String) (value : Draft)
    (members : List (Option String × Draft)) :
    valuesOf name ((some name, value) :: members) = value :: valuesOf name members := by
  simp [valuesOf]

/-- A member of another name adds nothing. -/
theorem valuesOf_cons_of_ne {name other : String} (hne : other ≠ name) (value : Draft)
    (members : List (Option String × Draft)) :
    valuesOf name ((some other, value) :: members) = valuesOf name members := by
  simp [valuesOf, hne]

/-- A name that no member has stands for no values. -/
theorem valuesOf_eq_nil {name : String} {members : List (Option String × Draft)}
    (h : some name ∉ members.map Prod.fst) : valuesOf name members = [] := by
  simp only [valuesOf, List.map_eq_nil_iff, List.filter_eq_nil_iff, beq_iff_eq]
  intro member hmember heq
  exact h (heq ▸ List.mem_map_of_mem hmember)

/-- A name that is missing in an object stands for no values. -/
theorem valuesOf_ofMembers_eq_nil {name : String} {members : List (String × Json)}
    (h : name ∉ members.map Prod.fst) : valuesOf name (Draft.ofMembers members) = [] := by
  apply valuesOf_eq_nil
  rw [Draft.ofMembers_eq_map, List.map_map]
  intro hmem
  obtain ⟨member, hmember, heq⟩ := List.mem_map.mp hmem
  exact h (List.mem_map.mpr ⟨member, hmember, Option.some.inj heq⟩)

/-- Numbering the members changes none of their values. -/
theorem map_named_enumerate (name : String) (start : Nat)
    (members : List (Option String × Draft)) :
    (named name (enumerate start members)).map (fun member => member.2.2) =
      valuesOf name members := by
  induction members generalizing start with
  | nil => rfl
  | cons member members ih =>
    have hrest := ih (start + 1)
    simp only [named, valuesOf] at hrest ⊢
    by_cases h : member.1 = some name
    · simp [enumerate, h, hrest]
    · simp [enumerate, h, hrest]

/-- The members that are no field are kept in their order. -/
theorem others_ofMembers (names : List String) (members : List (String × Json)) :
    others names (Draft.ofMembers members) =
      (members.filter fun member => !names.contains member.1).map fun member =>
        (member.1, member.2.inOrder) := by
  induction members with
  | nil => rfl
  | cons member members ih =>
    obtain ⟨name, value⟩ := member
    rw [Draft.ofMembers, others, datum?_ofJson]
    dsimp only
    by_cases h : names.contains name = true
    · rw [if_pos h, ih, List.filter_cons_of_neg (by simpa using h)]
    · rw [if_neg h, ih, List.filter_cons_of_pos (by simpa using h), List.map_cons]

/-! ## Fields -/

/-- What the values that stand under the name of a field make of it: nothing gives the default, and
a single value is read. -/
inductive FieldValue {α : Type} (decode : Draft → Except Fault α) (absence : Absence α) :
    List Draft → α → Prop where
  | absent {a : α} (h : absence.inObject = some a) : FieldValue decode absence [] a
  | present {d : Draft} {a : α} (h : decode d = .ok a) : FieldValue decode absence [d] a

/-- Without a value, a field has its default. -/
theorem fieldValue_nil_iff {α : Type} {decode : Draft → Except Fault α} {absence : Absence α}
    {a : α} : FieldValue decode absence [] a ↔ absence.inObject = some a :=
  ⟨fun | .absent h => h, .absent⟩

/-- With one value, a field has what is read from it. -/
theorem fieldValue_singleton_iff {α : Type} {decode : Draft → Except Fault α}
    {absence : Absence α} {d : Draft} {a : α} :
    FieldValue decode absence [d] a ↔ decode d = .ok a :=
  ⟨fun | .present h => h, .present⟩

/-- The order of the values does not matter, as several of them give nothing. -/
theorem FieldValue.of_perm {α : Type} {decode : Draft → Except Fault α} {absence : Absence α}
    {a : α} {as bs : List Draft} (hperm : as.Perm bs) (h : FieldValue decode absence as a) :
    FieldValue decode absence bs a := by
  cases h with
  | absent h =>
    rw [List.nil_perm.mp hperm]
    exact .absent h
  | present h =>
    rw [List.perm_singleton.mp hperm.symm]
    exact .present h

/-- A field is read from the values under its name, wherever its members stand. -/
theorem decodeField_eq_ok_iff {α : Type} {decode : Draft → Except Fault α} {name : String}
    {absence : Absence α} {count start : Nat} {members : List (Option String × Draft)} {a : α} :
    decodeField decode name absence count (enumerate start members) = .ok a ↔
      FieldValue decode absence (valuesOf name members) a := by
  rw [← map_named_enumerate name start, decodeField]
  match named name (enumerate start members) with
  | [] =>
    rw [List.map_nil, fieldValue_nil_iff]
    cases absence.inObject with
    | none => simp
    | some value => simp
  | [(i, label, value)] =>
    rw [List.map_cons, List.map_nil, fieldValue_singleton_iff]
    dsimp only
    split <;> simp_all
  | (i, label, value) :: (j, later) :: rest =>
    constructor
    · intro h
      dsimp only at h
      split at h <;> simp_all
    · rintro ⟨⟩

/-- What fields read from the members of an object. -/
def Fields.Reads : {β : Type} → Fields β → List (Option String × Draft) → β → Prop
  | _, .done, _, _ => True
  | _, .field name shape absence rest, members, (a, b) =>
    FieldValue shape.decode absence (valuesOf name members) a ∧ rest.Reads members b

/-- Two parts are read together when each of them is. -/
theorem both_eq_ok_iff {α β : Type} {x : Except Located α} {y : Except Located β} {a : α} {b : β} :
    both x y = .ok (a, b) ↔ x = .ok a ∧ y = .ok b := by
  cases x with
  | ok a' => cases y <;> simp [both]
  | error f =>
    cases y with
    | ok b' => simp [both]
    | error g =>
      simp only [both]
      split <;> simp

/-- By induction on the fields: the decoder reads what the members hold for each of them. -/
theorem Fields.decode_eq_ok_iff : {β : Type} → (fields : Fields β) → (count start : Nat) →
    (members : List (Option String × Draft)) → (b : β) →
    (fields.decode count (enumerate start members) = .ok b ↔ fields.Reads members b)
  | _, .done, _, _, _, () => by simp [Fields.decode, Fields.Reads]
  | _, .field name shape absence rest, count, start, members, (a, b) => by
    rw [Fields.decode, Fields.Reads, both_eq_ok_iff, decodeField_eq_ok_iff,
      rest.decode_eq_ok_iff count start members b]

/-- What is read depends only on the values under the names of the fields, and not on their order:
where there are several, nothing is read. -/
theorem Fields.Reads.of_perm : {β : Type} → {fields : Fields β} →
    {as bs : List (Option String × Draft)} → {b : β} →
    (∀ name ∈ fields.names, (valuesOf name as).Perm (valuesOf name bs)) →
    fields.Reads as b → fields.Reads bs b
  | _, .done, _, _, _, _, _ => trivial
  | _, .field name _ _ rest, _, _, (_, _), hperm, hreads => by
    rw [names, List.forall_mem_cons] at hperm
    exact ⟨hreads.1.of_perm hperm.1, Fields.Reads.of_perm hperm.2 hreads.2⟩

/-! ## Objects -/

/-- The other members pass when each has a name and, if it is no field, a good value. -/
theorem checkOthers_eq_ok_iff {names : List String} {good : Draft → Bool} {start : Nat}
    {members : List (Option String × Draft)} :
    checkOthers names good (enumerate start members) = .ok () ↔
      ∀ member ∈ members, ∃ name, member.1 = some name ∧
        (name ∈ names ∨ good member.2 = true) := by
  induction members generalizing start with
  | nil => simp [enumerate, checkOthers]
  | cons member members ih =>
    obtain ⟨name, value⟩ := member
    rw [List.forall_mem_cons, enumerate]
    cases name with
    | none => simp [checkOthers]
    | some name =>
      rw [checkOthers]
      by_cases h : (names.contains name || good value) = true
      · rw [if_pos h, ih]
        have hgood : name ∈ names ∨ good value = true := by simpa using h
        simp [hgood]
      · rw [if_neg h]
        have hgood : ¬(name ∈ names ∨ good value = true) := by simpa using h
        simp [hgood]

/-- An object is read when every other member is fine, the object ends where it should, and the
fields are read from its members. -/
theorem decodeObject_eq_ok_iff {β : Type} {fields : Fields β} {good : Draft → Bool}
    {members : List (Option String × Draft)} {closed : Bool} {b : β} :
    decodeObject fields.names good fields.decode members closed = .ok b ↔
      (∀ member ∈ members, ∃ name, member.1 = some name ∧
        (name ∈ fields.names ∨ good member.2 = true)) ∧
      closed = true ∧ fields.Reads members b := by
  have hclosed : checkClosed members.length closed = .ok () ↔ closed = true := by
    cases closed <;> simp [checkClosed]
  have hunlocated : ∀ x : Except Located β, unlocated x = .ok b ↔ x = .ok b := by
    intro x
    cases x <;> simp [unlocated]
  have hothers : checkOthers fields.names good (enumerate 0 members) = .ok () ↔
      ∀ member ∈ members, ∃ name, member.1 = some name ∧
        (name ∈ fields.names ∨ good member.2 = true) :=
    checkOthers_eq_ok_iff
  rw [decodeObject, hunlocated, do_bind_eq_ok_iff, ← hothers, ← hclosed,
    ← fields.decode_eq_ok_iff members.length 0 members b, ← and_assoc]
  constructor
  · rintro ⟨⟨⟨⟨⟩, ⟨⟩⟩, b'⟩, hboth, heq⟩
    cases heq
    rw [both_eq_ok_iff, both_eq_ok_iff] at hboth
    exact hboth
  · intro h
    exact ⟨(((), ()), b), both_eq_ok_iff.mpr ⟨both_eq_ok_iff.mpr h.1, h.2⟩, rfl⟩

/-- A packed value is read when its parts are. -/
theorem map_pack_eq_ok_iff {ε α β : Type} (packing : Packing β α) {x : Except ε β} {a : α} :
    x.map packing.pack = .ok a ↔ x = .ok (packing.unpack a) := by
  rw [map_eq_ok_iff]
  constructor
  · rintro ⟨b, hb, rfl⟩
    rw [hb, packing.unpack_pack]
  · intro h
    exact ⟨_, h, packing.pack_unpack a⟩

section

variable {α β : Type} {name : String} {fields : Fields β} {members : List (Option String × Draft)}
  {closed : Bool}

/-- A record is read from an object whose other members are well-formed. -/
theorem decode_record_object_iff {packing : Packing β α} {a : α} :
    (Shape.record name fields packing).decode (.object members closed) = .ok a ↔
      (∀ member ∈ members, ∃ name, member.1 = some name ∧
        (name ∈ fields.names ∨ member.2.isWellFormed = true)) ∧
      closed = true ∧ fields.Reads members (packing.unpack a) := by
  rw [← decodeObject_eq_ok_iff, ← map_pack_eq_ok_iff]
  rfl

/-- An open record is read from an object whose other members can be kept, and keeps them. -/
theorem decode_openRecord_object_iff {packing : Packing (β × Dictionary) α} {a : α} :
    (Shape.openRecord name fields packing).decode (.object members closed) = .ok a ↔
      (∀ member ∈ members, ∃ name, member.1 = some name ∧
        (name ∈ fields.names ∨ member.2.datum?.isSome = true)) ∧
      closed = true ∧ fields.Reads members (packing.unpack a).1 ∧
      Dictionary.ofList (others fields.names members) = (packing.unpack a).2 := by
  have hdecode : (Shape.openRecord name fields packing).decode (.object members closed) =
      ((decodeObject fields.names (fun d => d.datum?.isSome) fields.decode members closed).map
        fun values => (values, Dictionary.ofList (others fields.names members))).map
          packing.pack := by
    change Except.map _ _ = _
    cases decodeObject fields.names (fun d => d.datum?.isSome) fields.decode members closed <;> rfl
  rw [hdecode, map_pack_eq_ok_iff, map_eq_ok_iff]
  constructor
  · rintro ⟨values, hvalues, heq⟩
    obtain ⟨hothers, hclosed, hreads⟩ := decodeObject_eq_ok_iff.mp hvalues
    rw [← heq]
    exact ⟨hothers, hclosed, hreads, rfl⟩
  · rintro ⟨hothers, hclosed, hreads, heq⟩
    exact ⟨_, decodeObject_eq_ok_iff.mpr ⟨hothers, hclosed, hreads⟩, by rw [heq]⟩

/-- From an object a record reads its fields, whatever else the object holds. -/
theorem decodeJson_record_iff {packing : Packing β α} {members : List (String × Json)} {a : α} :
    (Shape.record name fields packing).decodeJson (.object members) = .ok a ↔
      fields.Reads (Draft.ofMembers members) (packing.unpack a) := by
  rw [Shape.decodeJson, Draft.ofJson, decode_record_object_iff]
  constructor
  · exact fun h => h.2.2
  · intro h
    refine ⟨fun member hmember => ?_, rfl, h⟩
    rw [Draft.ofMembers_eq_map] at hmember
    obtain ⟨⟨name, value⟩, -, rfl⟩ := List.mem_map.mp hmember
    exact ⟨name, rfl, Or.inr (Draft.isWellFormed_ofJson value)⟩

/-- An open record also keeps what else the object holds. -/
theorem decodeJson_openRecord_iff {packing : Packing (β × Dictionary) α}
    {members : List (String × Json)} {a : α} :
    (Shape.openRecord name fields packing).decodeJson (.object members) = .ok a ↔
      fields.Reads (Draft.ofMembers members) (packing.unpack a).1 ∧
      Dictionary.ofList (others fields.names (Draft.ofMembers members)) =
        (packing.unpack a).2 := by
  rw [Shape.decodeJson, Draft.ofJson, decode_openRecord_object_iff]
  constructor
  · exact fun h => h.2.2
  · intro h
    refine ⟨fun member hmember => ?_, rfl, h⟩
    rw [Draft.ofMembers_eq_map] at hmember
    obtain ⟨⟨name, value⟩, -, rfl⟩ := List.mem_map.mp hmember
    exact ⟨name, rfl, Or.inr (Draft.isSome_datum?_ofJson value)⟩

end

/-- Nothing but null is taken apart into null. -/
theorem ofJson_ne_null {j : Json} (h : j ≠ .null) : Draft.ofJson j ≠ .null := by
  cases j with
  | null => exact absurd rfl h
  | _ => nofun

/-- An optional value that is not null is read as the value. -/
theorem decode_optional_of_ne {α : Type} (shape : Shape α) {d : Draft} (h : d ≠ .null) :
    (Shape.optional shape).decode d = (shape.decode d).map some := by
  cases d with
  | null => exact absurd rfl h
  | _ => rfl

/-- Where null has a meaning of its own, every other value is read as usual. -/
theorem decode_nullAs_of_ne {α : Type} (value : α) (shape : Shape α) {d : Draft} (h : d ≠ .null) :
    (Shape.nullAs value shape).decode d = shape.decode d := by
  cases d with
  | null => exact absurd rfl h
  | _ => rfl

/-- A list reads its items one by one. -/
theorem decodeJson_list_iff {α : Type} {shape : Shape α} {items : List Json} {values : List α} :
    (Shape.list shape).decodeJson (.array items) = .ok values ↔
      List.Forall₂ (fun item value => shape.decodeJson item = .ok value) items values := by
  have hdecode : (Shape.list shape).decodeJson (.array items) =
      decodeItems shape.decode (Draft.ofItems items) := by
    change (decodeItems shape.decode (Draft.ofItems items)).bind _ = _
    cases decodeItems shape.decode (Draft.ofItems items) <;> rfl
  rw [hdecode, decodeItems_eq_ok_iff, Draft.ofItems_eq_map, List.forall₂_map_left_iff]
  rfl

end CiClient.Json
