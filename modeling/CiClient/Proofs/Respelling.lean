import CiClient.Proofs.ShapeLaws

/-!
# Spellings of a record

A server may write one record in many ways: in any order of the members, with members that the
record does not know, and with the absence of a value left out, spelled as null, or as an empty
collection. `Shape.Respelled` relates values that differ in nothing else, at any depth within a
value. A reader does not tell them apart: it reads the same from both, or nothing from either.
-/

set_option autoImplicit false

namespace CiClient.Json

/-! ## Positions in a shape -/

/-- Among some fields there is one of a name. -/
inductive Fields.Has {α : Type} (name : String) (shape : Shape α) (absence : Absence α) :
    {β : Type} → Fields β → Prop where
  | first {β : Type} (rest : Fields β) : Has name shape absence (.field name shape absence rest)
  | later {β γ : Type} (other : String) (otherShape : Shape γ) (otherAbsence : Absence γ)
    {rest : Fields β} (h : Has name shape absence rest) :
    Has name shape absence (.field other otherShape otherAbsence rest)

/-- A shape is that of a record with given fields. -/
inductive Shape.HasFields {β : Type} (fields : Fields β) : {α : Type} → Shape α → Prop where
  | record {α : Type} (name : String) (packing : Packing β α) :
    HasFields fields (.record name fields packing)
  | openRecord {α : Type} (name : String) (packing : Packing (β × Dictionary) α) :
    HasFields fields (.openRecord name fields packing)

/-- Two values of a shape that differ only in spelling. -/
inductive Shape.Respelled : {α : Type} → Shape α → Json → Json → Prop where
  | refl {α : Type} (shape : Shape α) (a : Json) : Respelled shape a a
  | symm {α : Type} {shape : Shape α} {a b : Json} (h : Respelled shape a b) : Respelled shape b a
  | trans {α : Type} {shape : Shape α} {a b c : Json} (hab : Respelled shape a b)
    (hbc : Respelled shape b c) : Respelled shape a c
  | optional {α : Type} {shape : Shape α} {a b : Json} (h : Respelled shape a b) :
    Respelled (.optional shape) a b
  | nullAs {α : Type} (value : α) {shape : Shape α} {a b : Json} (h : Respelled shape a b) :
    Respelled (.nullAs value shape) a b
  | item {α : Type} {shape : Shape α} {a b : Json} (before after : List Json)
    (h : Respelled shape a b) :
    Respelled (.list shape) (.array (before ++ a :: after)) (.array (before ++ b :: after))
  /-- The value of a field is spelled differently. -/
  | member {α β γ : Type} {shape : Shape α} {fields : Fields β} {name : String} {field : Shape γ}
    {absence : Absence γ} {a b : Json} (hshape : shape.HasFields fields)
    (hfield : fields.Has name field absence) (before after : List (String × Json))
    (h : Respelled field a b) :
    Respelled shape (.object (before ++ (name, a) :: after))
      (.object (before ++ (name, b) :: after))
  | reorder {α β : Type} {shape : Shape α} {fields : Fields β} {as bs : List (String × Json)}
    (hshape : shape.HasFields fields) (hdistinct : Members.Distinct as) (hperm : as.Perm bs) :
    Respelled shape (.object as) (.object bs)
  /-- The absence of a field is spelled out. -/
  | absent {α β γ : Type} {shape : Shape α} {fields : Fields β} {name : String} {field : Shape γ}
    {absence : Absence γ} {j : Json} (hshape : shape.HasFields fields)
    (hfield : fields.Has name field absence) (hform : j ∈ field.absenceForms)
    (before after : List (String × Json)) (hname : name ∉ (before ++ after).map Prod.fst) :
    Respelled shape (.object (before ++ after)) (.object (before ++ (name, j) :: after))
  /-- A member is added that is no field, except where such members are kept. -/
  | unknown {α β : Type} (record : String) {fields : Fields β} (packing : Packing β α)
    {name : String} (hname : name ∉ fields.names) (j : Json)
    (before after : List (String × Json)) :
    Respelled (.record record fields packing) (.object (before ++ after))
      (.object (before ++ (name, j) :: after))

/-! ## One change -/

section

variable {α β : Type} {name : String} {shape : Shape α} {absence : Absence α} {fields : Fields β}

/-- The name of a field is among the names. -/
theorem Fields.Has.mem_names (h : fields.Has name shape absence) : name ∈ fields.names := by
  induction h with
  | first rest => exact List.mem_cons_self
  | later _ _ _ _ ih => exact List.mem_cons_of_mem _ ih

/-- A field of lawful fields is lawful. -/
theorem Fields.Has.isLawful (h : fields.Has name shape absence) (hlawful : fields.AreLawful) :
    shape.IsLawful ∧ absence.Suits shape := by
  induction h with
  | first rest => exact ⟨hlawful.1, hlawful.2.1⟩
  | later _ _ _ _ ih => exact ih hlawful.2.2

/-- Where members differ only in the values under one name, it is enough that the field of that name
is read alike. -/
theorem Fields.Has.reads (h : fields.Has name shape absence) (hnames : fields.names.Nodup)
    {as bs : List (Option String × Draft)}
    (hname : ∀ a, FieldValue shape.decode absence (valuesOf name as) a →
      FieldValue shape.decode absence (valuesOf name bs) a)
    (hothers : ∀ other, other ≠ name → (valuesOf other as).Perm (valuesOf other bs)) {b : β}
    (hreads : fields.Reads as b) : fields.Reads bs b := by
  induction h with
  | first rest =>
    obtain ⟨a, b⟩ := b
    rw [Fields.names, List.nodup_cons] at hnames
    refine ⟨hname a hreads.1, hreads.2.of_perm ?_⟩
    intro other hother
    apply hothers
    rintro rfl
    exact hnames.1 hother
  | later other _ _ hrest ih =>
    obtain ⟨a, b⟩ := b
    rw [Fields.names, List.nodup_cons] at hnames
    have hne : other ≠ name := by
      rintro rfl
      exact hnames.1 hrest.mem_names
    exact ⟨hreads.1.of_perm (hothers other hne), ih hnames.2 hreads.2⟩

/-- The fields of a lawful record have distinct names and are lawful. -/
theorem Shape.HasFields.isLawful (h : shape.HasFields fields) (hlawful : shape.IsLawful) :
    fields.names.Nodup ∧ fields.AreLawful := by
  cases h with
  | record => exact hlawful
  | openRecord => exact hlawful

/-- From two objects the same is read where the fields and the kept members are the same. -/
theorem Shape.HasFields.decodeJson_congr (h : shape.HasFields fields)
    {as bs : List (String × Json)}
    (hreads : ∀ b, fields.Reads (Draft.ofMembers as) b ↔ fields.Reads (Draft.ofMembers bs) b)
    (hkept : Dictionary.ofList (others fields.names (Draft.ofMembers as)) =
      Dictionary.ofList (others fields.names (Draft.ofMembers bs))) (v : α) :
    shape.decodeJson (.object as) = .ok v ↔ shape.decodeJson (.object bs) = .ok v := by
  cases h with
  | record => rw [decodeJson_record_iff, decodeJson_record_iff, hreads]
  | openRecord => rw [decodeJson_openRecord_iff, decodeJson_openRecord_iff, hreads, hkept]

/-- In another order of the members, each name stands for the same values. -/
theorem perm_valuesOf_ofMembers {as bs : List (String × Json)} (h : as.Perm bs) (name : String) :
    (valuesOf name (Draft.ofMembers as)).Perm (valuesOf name (Draft.ofMembers bs)) := by
  rw [Draft.ofMembers_eq_map, Draft.ofMembers_eq_map]
  exact ((h.map _).filter _).map _

variable {γ : Type} {record : Shape γ} {a b : Json} {before after : List (String × Json)}

/-- A member adds its value to those of its name. -/
theorem perm_valuesOf_insert_self :
    (valuesOf name (Draft.ofMembers (before ++ (name, a) :: after))).Perm
      (Draft.ofJson a :: valuesOf name (Draft.ofMembers (before ++ after))) := by
  refine (perm_valuesOf_ofMembers List.perm_middle name).trans ?_
  rw [Draft.ofMembers, valuesOf_cons_self]

/-- A member of another name does not change what a name stands for. -/
theorem perm_valuesOf_insert_of_ne {other : String} (hne : other ≠ name) :
    (valuesOf other (Draft.ofMembers (before ++ (name, a) :: after))).Perm
      (valuesOf other (Draft.ofMembers (before ++ after))) := by
  refine (perm_valuesOf_ofMembers List.perm_middle other).trans ?_
  rw [Draft.ofMembers, valuesOf_cons_of_ne hne.symm]

/-- A member with the name of a field is none of the others. -/
theorem others_insert_of_mem {names : List String} (h : name ∈ names) :
    others names (Draft.ofMembers (before ++ (name, a) :: after)) =
      others names (Draft.ofMembers (before ++ after)) := by
  rw [others_ofMembers, others_ofMembers, List.filter_append, List.filter_append,
    List.filter_cons_of_neg (by simpa using h)]

/-- The value of a field can be replaced by one that is read the same. -/
theorem decodeJson_member_iff (hlawful : record.IsLawful) (hrecord : record.HasFields fields)
    (hfield : fields.Has name shape absence)
    (h : ∀ v, shape.decodeJson a = .ok v ↔ shape.decodeJson b = .ok v) (r : γ) :
    record.decodeJson (.object (before ++ (name, a) :: after)) = .ok r ↔
      record.decodeJson (.object (before ++ (name, b) :: after)) = .ok r := by
  have hnames := (hrecord.isLawful hlawful).1
  have hreads : ∀ {a b : Json}, (∀ v, shape.decodeJson a = .ok v → shape.decodeJson b = .ok v) →
      ∀ r, fields.Reads (Draft.ofMembers (before ++ (name, a) :: after)) r →
        fields.Reads (Draft.ofMembers (before ++ (name, b) :: after)) r := by
    intro a b h r
    apply hfield.reads hnames
    · intro v hv
      have hfirst := hv.of_perm perm_valuesOf_insert_self
      apply FieldValue.of_perm perm_valuesOf_insert_self.symm
      -- the value has been read, so no other member has the name
      generalize valuesOf name (Draft.ofMembers (before ++ after)) = values at hfirst ⊢
      cases hfirst with
      | present hd => exact .present (h v hd)
    · intro other hne
      exact (perm_valuesOf_insert_of_ne hne).trans (perm_valuesOf_insert_of_ne hne).symm
  refine hrecord.decodeJson_congr (fun r => ⟨?_, ?_⟩) ?_ r
  · exact hreads (fun v => (h v).mp) r
  · exact hreads (fun v => (h v).mpr) r
  · rw [others_insert_of_mem hfield.mem_names, others_insert_of_mem hfield.mem_names]

/-- A record is read the same in any order of its members. -/
theorem decodeJson_reorder_iff {as bs : List (String × Json)} (hrecord : record.HasFields fields)
    (hdistinct : Members.Distinct as) (hperm : as.Perm bs) (r : γ) :
    record.decodeJson (.object as) = .ok r ↔ record.decodeJson (.object bs) = .ok r := by
  have hothers : (others fields.names (Draft.ofMembers as)).Perm
      (others fields.names (Draft.ofMembers bs)) := by
    rw [others_ofMembers, others_ofMembers]
    exact (hperm.filter _).map _
  have hkept : Members.Distinct (others fields.names (Draft.ofMembers as)) := by
    rw [others_ofMembers, Members.Distinct, List.map_map]
    exact List.Nodup.sublist (List.filter_sublist.map _) hdistinct
  refine hrecord.decodeJson_congr (fun r => ⟨?_, ?_⟩) ?_ r
  · exact Fields.Reads.of_perm fun name _ => perm_valuesOf_ofMembers hperm name
  · exact Fields.Reads.of_perm fun name _ => perm_valuesOf_ofMembers hperm.symm name
  · simp only [Dictionary.ofList, Members.ofList_eq_of_perm hkept hothers]

/-- A field may be missing or hold a form of absence. -/
theorem decodeJson_absent_iff (hlawful : record.IsLawful) (hrecord : record.HasFields fields)
    (hfield : fields.Has name shape absence) (hform : a ∈ shape.absenceForms)
    (hname : name ∉ (before ++ after).map Prod.fst) (r : γ) :
    record.decodeJson (.object (before ++ after)) = .ok r ↔
      record.decodeJson (.object (before ++ (name, a) :: after)) = .ok r := by
  obtain ⟨hnames, hfields⟩ := hrecord.isLawful hlawful
  obtain ⟨v, habsent, hspelled⟩ := (hfield.isLawful hfields).2.forms a hform
  have hnone := valuesOf_ofMembers_eq_nil hname
  have hone : (valuesOf name (Draft.ofMembers (before ++ (name, a) :: after))).Perm
      [Draft.ofJson a] := by
    rw [← hnone]
    exact perm_valuesOf_insert_self
  refine hrecord.decodeJson_congr (fun r => ⟨?_, ?_⟩) ?_ r
  · apply hfield.reads hnames
    · intro v' hv'
      rw [hnone, fieldValue_nil_iff] at hv'
      cases habsent.symm.trans hv'
      exact (FieldValue.present hspelled).of_perm hone.symm
    · intro other hne
      exact (perm_valuesOf_insert_of_ne hne).symm
  · apply hfield.reads hnames
    · intro v' hv'
      have hread := fieldValue_singleton_iff.mp (hv'.of_perm hone)
      rw [hnone]
      cases hspelled.symm.trans hread
      exact .absent habsent
    · intro other hne
      exact perm_valuesOf_insert_of_ne hne
  · rw [others_insert_of_mem hfield.mem_names]

/-- A record that keeps no other members does not see a further one. -/
theorem decodeJson_unknown_iff {recordName : String} {packing : Packing β γ}
    (hname : name ∉ fields.names) (r : γ) :
    (Shape.record recordName fields packing).decodeJson (.object (before ++ after)) = .ok r ↔
      (Shape.record recordName fields packing).decodeJson
        (.object (before ++ (name, a) :: after)) = .ok r := by
  have hvalues : ∀ other ∈ fields.names,
      (valuesOf other (Draft.ofMembers (before ++ (name, a) :: after))).Perm
        (valuesOf other (Draft.ofMembers (before ++ after))) := by
    intro other hother
    have hne : other ≠ name := by
      rintro rfl
      exact hname hother
    exact perm_valuesOf_insert_of_ne hne
  rw [decodeJson_record_iff, decodeJson_record_iff]
  constructor
  · exact Fields.Reads.of_perm fun other hother => (hvalues other hother).symm
  · exact Fields.Reads.of_perm hvalues

end

/-- Values that are read the same are so as optional ones, if both or neither are null. -/
theorem decodeJson_optional_iff {α : Type} {shape : Shape α} {a b : Json}
    (hnull : a = .null ↔ b = .null)
    (h : ∀ v, shape.decodeJson a = .ok v ↔ shape.decodeJson b = .ok v) (v : Option α) :
    (Shape.optional shape).decodeJson a = .ok v ↔
      (Shape.optional shape).decodeJson b = .ok v := by
  by_cases ha : a = .null
  · rw [ha, hnull.mp ha]
  · have hb : b ≠ .null := by
      intro hb
      exact ha (hnull.mpr hb)
    change (Shape.optional shape).decode (.ofJson a) = _ ↔
      (Shape.optional shape).decode (.ofJson b) = _
    rw [decode_optional_of_ne shape (ofJson_ne_null ha),
      decode_optional_of_ne shape (ofJson_ne_null hb), map_eq_ok_iff, map_eq_ok_iff]
    exact exists_congr fun v => and_congr_left fun _ => h v

/-- The same holds where null has a meaning of its own. -/
theorem decodeJson_nullAs_iff {α : Type} {value : α} {shape : Shape α} {a b : Json}
    (hnull : a = .null ↔ b = .null)
    (h : ∀ v, shape.decodeJson a = .ok v ↔ shape.decodeJson b = .ok v) (v : α) :
    (Shape.nullAs value shape).decodeJson a = .ok v ↔
      (Shape.nullAs value shape).decodeJson b = .ok v := by
  by_cases ha : a = .null
  · rw [ha, hnull.mp ha]
  · have hb : b ≠ .null := by
      intro hb
      exact ha (hnull.mpr hb)
    change (Shape.nullAs value shape).decode (.ofJson a) = _ ↔
      (Shape.nullAs value shape).decode (.ofJson b) = _
    rw [decode_nullAs_of_ne value shape (ofJson_ne_null ha),
      decode_nullAs_of_ne value shape (ofJson_ne_null hb)]
    exact h v

/-- An item of a list can be replaced by one that is read the same. -/
theorem decodeJson_item_iff {α : Type} {shape : Shape α} {a b : Json} {before after : List Json}
    (h : ∀ v, shape.decodeJson a = .ok v ↔ shape.decodeJson b = .ok v) (values : List α) :
    (Shape.list shape).decodeJson (.array (before ++ a :: after)) = .ok values ↔
      (Shape.list shape).decodeJson (.array (before ++ b :: after)) = .ok values := by
  rw [decodeJson_list_iff, decodeJson_list_iff]
  induction before generalizing values with
  | nil => simp only [List.nil_append, List.forall₂_cons_left_iff, h]
  | cons first before ih => simp only [List.cons_append, List.forall₂_cons_left_iff, ih]

/-! ## Any changes -/

/-- Values that differ only in spelling are read alike. -/
theorem Shape.Respelled.read_alike {α : Type} {shape : Shape α} {a b : Json}
    (h : shape.Respelled a b) (hlawful : shape.IsLawful) :
    (a = .null ↔ b = .null) ∧
      ∀ v, shape.decodeJson a = .ok v ↔ shape.decodeJson b = .ok v := by
  -- an optional value looks at whether it is null, so the induction has to carry that too
  induction h with
  | refl shape a => exact ⟨Iff.rfl, fun _ => Iff.rfl⟩
  | symm _ ih =>
    obtain ⟨hnull, hread⟩ := ih hlawful
    exact ⟨hnull.symm, fun v => (hread v).symm⟩
  | trans _ _ ihab ihbc =>
    obtain ⟨hnull, hread⟩ := ihab hlawful
    obtain ⟨hnull', hread'⟩ := ihbc hlawful
    exact ⟨hnull.trans hnull', fun v => (hread v).trans (hread' v)⟩
  | optional _ ih =>
    obtain ⟨hnull, hread⟩ := ih hlawful
    exact ⟨hnull, decodeJson_optional_iff hnull hread⟩
  | nullAs _ _ ih =>
    obtain ⟨hnull, hread⟩ := ih hlawful.1
    exact ⟨hnull, decodeJson_nullAs_iff hnull hread⟩
  | item _ _ _ ih => exact ⟨iff_of_false nofun nofun, decodeJson_item_iff (ih hlawful).2⟩
  | member hrecord hfield _ _ _ ih =>
    have hread := (ih (hfield.isLawful (hrecord.isLawful hlawful).2).1).2
    exact ⟨iff_of_false nofun nofun, decodeJson_member_iff hlawful hrecord hfield hread⟩
  | reorder hrecord hdistinct hperm =>
    exact ⟨iff_of_false nofun nofun, decodeJson_reorder_iff hrecord hdistinct hperm⟩
  | absent hrecord hfield hform _ _ hname =>
    exact ⟨iff_of_false nofun nofun, decodeJson_absent_iff hlawful hrecord hfield hform hname⟩
  | unknown _ _ hname _ _ _ =>
    exact ⟨iff_of_false nofun nofun, decodeJson_unknown_iff hname⟩

end CiClient.Json

namespace CiClient.RecordKind

open Json (Shape)

/-- However the server spells a record, the same record is read. -/
theorem decodeJson_eq_of_respelled (kind : RecordKind) {a b : Json}
    (h : kind.shape.Respelled a b) {v : kind.Carrier} (ha : kind.shape.decodeJson a = .ok v) :
    kind.shape.decodeJson b = .ok v := by
  obtain ⟨-, hread⟩ := h.read_alike kind.isLawful_shape
  exact (hread v).mp ha

/-- A folder with one job, without what is absent. -/
def briefly : Json :=
  .object [("url", .text "/"), ("jobs", .array [.object [("name", .text "app")]])]

/-- The same folder in another order, with a member that no folder has, and with an absence spelled
out in the job. -/
def atLength : Json :=
  .object [("jobs", .array [.object [("name", .text "app"), ("color", .null)]]),
    ("node", .text "agent"), ("url", .text "/")]

/-- The two differ in spelling alone: in an absence, the order and an unknown member. -/
theorem respelled_briefly_atLength : jobList.shape.Respelled briefly atLength := by
  have hjob : Record.Job.shape.Respelled (.object [("name", .text "app")])
      (.object [("name", .text "app"), ("color", .null)]) :=
    .absent (.record _ _) (.later _ _ _ (.later _ _ _ (.later _ _ _ (.first _))))
      (List.mem_singleton_self _) [_] [] (by decide)
  have hjobs := Shape.Respelled.nullAs [] (.item [] [] hjob)
  have hmember : jobList.shape.Respelled briefly _ :=
    .member (.record _ _) (.later _ _ _ (.first _)) [_] [] hjobs
  refine .trans hmember (.trans (.reorder (.record _ _) ?_ (.swap ("jobs", _) ("url", _) [])) ?_)
  · simp [Members.Distinct]
  · exact .unknown _ _ (by decide) (.text "agent") [_] [_]

/-- The same folder is read from both. -/
theorem read_briefly_atLength :
    ∃ folder : Record.JobList, jobList.shape.decodeJson briefly = .ok folder ∧
      jobList.shape.decodeJson atLength = .ok folder := by
  have hread : jobList.shape.decodeJson briefly =
      .ok ⟨none, [⟨none, "app", none, none⟩], some "/"⟩ := rfl
  exact ⟨_, hread, decodeJson_eq_of_respelled jobList respelled_briefly_atLength hread⟩

end CiClient.RecordKind
