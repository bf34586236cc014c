import CiClient.Proofs.ShapeLaws

/-!
# Reading back what was written

For a lawful shape, a value that survives is read back from what is written of it. Conversely all
that is ever read survives: a reader takes null for the absence of a value wherever it could be
either, and it keeps a member only when the name is not that of a field. So what was read once can
be written and read again without loss.

For the records of the catalog this comes to two conditions, on the item of the queue that a job
waits in and on the further members of a task; all other records have none.
-/

set_option autoImplicit false

namespace CiClient.Json

/-! ## Writing and reading -/

/-- A signed number of 64 bits is within its limits, so it is read back. -/
theorem decodeInt64_encode (n : Int64) :
    Shape.int64.decodeJson (Shape.int64.encode n) = .ok n := by
  have hfits : Text.fitsInt64 n.toInt = true := by
    have hlow := n.le_toInt
    have hhigh := n.toInt_lt
    simp only [Text.fitsInt64, Int64.toInt_minValue, Int64.toInt_maxValue, Bool.and_eq_true,
      decide_eq_true_eq]
    omega
  change decodeInt64 (.number (.integer n.toInt)) = _
  rw [decodeInt64, if_pos hfits, Int64.ofInt_toInt]

/-- So is one without a sign. -/
theorem decodeNat64_encode (n : UInt64) :
    Shape.nat64.decodeJson (Shape.nat64.encode n) = .ok n := by
  have hsize := n.toNat_lt_size
  change decodeNat64 (.number (.integer n.toNat)) = _
  have hfits : (0 ≤ (n.toNat : Int) && (n.toNat : Int) < (UInt64.size : Int)) = true := by
    simp only [Bool.and_eq_true, decide_eq_true_eq]
    omega
  rw [decodeNat64, if_pos hfits, Int.toNat_natCast, UInt64.ofNat_toNat]

/-- Members that were kept are read back as they are. -/
theorem decodeMembers_ofMembers (members : List (String × Datum)) :
    decodeMembers (Draft.ofMembers (members.map fun (name, datum) => (name, datum.json))) =
      .ok members := by
  induction members with
  | nil => rfl
  | cons member members ih =>
    obtain ⟨name, datum⟩ := member
    have hdatum : decodeDatum (Draft.ofJson datum.json) = .ok datum := by
      rw [decodeDatum, datum?_ofJson, inOrder_json]
    rw [List.map_cons, Draft.ofMembers, decodeMembers, hdatum, ih]
    rfl

/-- Since the members of a dictionary are in order, it is read back. -/
theorem decodeDictionary_toJson (d : Dictionary) :
    Shape.dictionary.decodeJson (Shape.dictionary.encode d) = .ok d := by
  change decodeDictionary (.object (Draft.ofMembers _) true) = _
  rw [decodeDictionary, decodeMembers_ofMembers]
  change Except.ok (Dictionary.ofList d.members) = _
  rw [Dictionary.ofList]
  congr
  exact Members.ofList_of_sorted d.sorted

/-- Written fields have the names of the fields. -/
theorem Fields.map_fst_encode : {β : Type} → (fields : Fields β) → (b : β) →
    (fields.encode b).map Prod.fst = fields.names
  | _, .done, _ => rfl
  | _, .field name _ _ rest, (_, b) => by
    rw [encode, names, List.map_cons, rest.map_fst_encode b]

/-- Among the members that an open record writes, those that are no field are the kept ones. -/
theorem others_encode {β : Type} (fields : Fields β) (b : β) {kept : List (String × Datum)}
    (h : ∀ member ∈ kept, member.1 ∉ fields.names) :
    others fields.names (Draft.ofMembers (fields.encode b ++
      kept.map fun (name, datum) => (name, datum.json))) = kept := by
  have hfields : (fields.encode b).filter (fun member => !fields.names.contains member.1) = [] := by
    rw [List.filter_eq_nil_iff]
    intro member hmember
    have hname : member.1 ∈ fields.names := by
      rw [← fields.map_fst_encode b]
      exact List.mem_map_of_mem hmember
    simp [hname]
  have hkept : (kept.map fun (name, datum) => (name, datum.json)).filter
      (fun member => !fields.names.contains member.1) =
        kept.map fun (name, datum) => (name, datum.json) := by
    rw [List.filter_eq_self]
    intro member hmember
    obtain ⟨⟨name, datum⟩, hmem, rfl⟩ := List.mem_map.mp hmember
    simpa using h _ hmem
  rw [others_ofMembers, List.filter_append, hfields, hkept, List.nil_append, List.map_map]
  conv_rhs => rw [← List.map_id kept]
  apply List.map_congr_left
  intro member _
  simp [inOrder_json]

mutual

/-- What survives is read back. -/
theorem Shape.decode_encode : {α : Type} → (shape : Shape α) → shape.IsLawful → (a : α) →
    shape.Survives a → shape.decodeJson (shape.encode a) = .ok a
  | _, .boolean, _, _, _ => rfl
  | _, .int64, _, n, _ => decodeInt64_encode n
  | _, .nat64, _, n, _ => decodeNat64_encode n
  | _, .text, _, _, _ => rfl
  | _, .datum, _, datum, _ => by
    change decodeDatum (Draft.ofJson datum.json) = _
    rw [decodeDatum, datum?_ofJson, inOrder_json]
  | _, .dictionary, _, d, _ => decodeDictionary_toJson d
  | _, .choice names name, h, a, _ => by
    change chosen names (name a) = _
    rw [chosen, h a]
  | _, .optional _, _, none, _ => rfl
  | _, .optional shape, h, some a, ha => by
    obtain ⟨hne, hsurvives⟩ := ha a rfl
    change (Shape.optional shape).decode (Draft.ofJson (shape.encode a)) = _
    rw [decode_optional_of_ne shape (ofJson_ne_null hne), map_eq_ok_iff]
    exact ⟨a, shape.decode_encode h a hsurvives, rfl⟩
  | _, .nullAs value shape, h, a, ha => by
    change (Shape.nullAs value shape).decode (Draft.ofJson (shape.encode a)) = _
    rw [decode_nullAs_of_ne value shape (ofJson_ne_null (shape.encode_ne_null h.2.2 a))]
    exact shape.decode_encode h.1 a ha
  | _, .list shape, h, values, ha => by
    change (Shape.list shape).decodeJson (.array (values.map shape.encode)) = _
    rw [decodeJson_list_iff, List.forall₂_map_left_iff, List.forall₂_same]
    exact fun value hvalue => shape.decode_encode h value (ha value hvalue)
  | _, .record _ fields packing, h, a, ha => by
    have hreads := fields.reads_encode h.1 h.2 (packing.unpack a) ha [] nofun
    rw [List.append_nil] at hreads
    exact decodeJson_record_iff.mpr hreads
  | _, .openRecord _ fields packing, h, a, ha => by
    refine decodeJson_openRecord_iff.mpr ⟨?_, ?_⟩
    · apply fields.reads_encode h.1 h.2 (packing.unpack a).1 ha.1
      intro name hname hmem
      rw [List.map_map] at hmem
      obtain ⟨member, hmember, rfl⟩ := List.mem_map.mp hmem
      exact ha.2 member hmember hname
    · rw [others_encode fields _ ha.2, Dictionary.ofList]
      congr
      exact Members.ofList_of_sorted (packing.unpack a).2.sorted

/-- Fields are read back from what is written of them, also when more members follow. -/
theorem Fields.reads_encode : {β : Type} → (fields : Fields β) → fields.names.Nodup →
    fields.AreLawful → (b : β) → fields.Survive b → (more : List (String × Json)) →
    (∀ name ∈ fields.names, name ∉ more.map Prod.fst) →
    fields.Reads (Draft.ofMembers (fields.encode b ++ more)) b
  | _, .done, _, _, _, _, _, _ => trivial
  | _, .field name shape absence rest, hnames, h, (a, b), hb, more, hmore => by
    rw [Fields.names, List.nodup_cons] at hnames
    rw [Fields.names, List.forall_mem_cons] at hmore
    -- names are distinct, so the first member is the only one of its name
    have hfirst : valuesOf name (Draft.ofMembers (rest.encode b ++ more)) = [] := by
      apply valuesOf_ofMembers_eq_nil
      rw [List.map_append, rest.map_fst_encode, List.mem_append, not_or]
      exact ⟨hnames.1, hmore.1⟩
    constructor
    · change FieldValue _ _ (valuesOf name ((some name, Draft.ofJson (shape.encode a)) ::
        Draft.ofMembers (rest.encode b ++ more))) a
      rw [valuesOf_cons_self, hfirst]
      exact .present (shape.decode_encode h.1 a hb.1)
    · have hrest := rest.reads_encode hnames.2 h.2.2 b hb.2 more hmore.2
      apply Fields.Reads.of_perm _ hrest
      intro other hother
      have hne : name ≠ other := fun heq => hnames.1 (heq ▸ hother)
      exact (valuesOf_cons_of_ne hne _ _).symm ▸ List.Perm.refl _

end

/-! ## What has been read -/

/-- Only null is put together to null. -/
theorem eq_null_of_json? {d : Draft} (h : d.json? = some .null) : d = .null := by
  cases d with
  | null => rfl
  | array items closed =>
    rw [Draft.json?] at h
    split at h
    · split at h <;> cases h
    · cases h
  | object members closed =>
    rw [Draft.json?] at h
    split at h
    · split at h <;> cases h
    · cases h
  | _ => cases h

/-- A datum is read from a draft that can be kept. -/
theorem decodeDatum_eq_ok_iff {d : Draft} {datum : Datum} :
    decodeDatum d = .ok datum ↔ d.datum? = some datum := by
  unfold decodeDatum
  cases d.datum? <;> simp

/-- Only null is read as something that is written as null. -/
theorem Shape.encode_ne_null_of_decode : {α : Type} → (shape : Shape α) → {d : Draft} → {a : α} →
    shape.decode d = .ok a → d ≠ .null → shape.encode a ≠ .null
  | _, .boolean, _, _, _, _ => Json.noConfusion
  | _, .int64, _, _, _, _ => Json.noConfusion
  | _, .nat64, _, _, _, _ => Json.noConfusion
  | _, .text, _, _, _, _ => Json.noConfusion
  | _, .dictionary, _, _, _, _ => Json.noConfusion
  | _, .choice _ _, _, _, _, _ => Json.noConfusion
  | _, .list _, _, _, _, _ => Json.noConfusion
  | _, .record _ _ _, _, _, _, _ => Json.noConfusion
  | _, .openRecord _ _ _, _, _, _, _ => Json.noConfusion
  | _, .datum, d, a, h, hne => by
    intro hnull
    have hjson := Draft.datum?_eq_some_iff.mp (decodeDatum_eq_ok_iff.mp h)
    rw [show a.json = .null from hnull] at hjson
    exact hne (eq_null_of_json? hjson)
  | _, .optional shape, d, a, h, hne => by
    rw [decode_optional_of_ne shape hne, map_eq_ok_iff] at h
    obtain ⟨value, hvalue, rfl⟩ := h
    exact shape.encode_ne_null_of_decode hvalue hne
  | _, .nullAs value shape, d, a, h, hne => by
    rw [decode_nullAs_of_ne value shape hne] at h
    exact shape.encode_ne_null_of_decode h hne

/-- Every value that is read comes from an item. -/
theorem exists_item_of_decodeItems {α : Type} {decode : Draft → Except Fault α}
    {items : List Draft} {values : List α} (h : decodeItems decode items = .ok values) :
    ∀ value ∈ values, ∃ item, decode item = .ok value := by
  induction decodeItems_eq_ok_iff.mp h with
  | nil => nofun
  | cons hitem hitems ih =>
    rw [List.forall_mem_cons]
    exact ⟨⟨_, hitem⟩, ih (decodeItems_eq_ok_iff.mpr hitems)⟩

/-- Every value of a list that is read comes from an item. -/
theorem exists_item_of_decode_list {α : Type} {shape : Shape α} {d : Draft} {values : List α}
    (h : (Shape.list shape).decode d = .ok values) :
    ∀ value ∈ values, ∃ item, shape.decode item = .ok value := by
  cases d with
  | array items closed =>
    obtain ⟨values', hvalues, hclosed⟩ := do_bind_eq_ok_iff.mp h
    split at hclosed
    · cases hclosed
      exact exists_item_of_decodeItems hvalues
    · cases hclosed
  | deep content => cases content <;> cases h
  | _ => cases h

/-- A record comes from an object or from an array. -/
theorem decode_record_eq_ok {α β : Type} {name : String} {fields : Fields β}
    {packing : Packing β α} {d : Draft} {a : α}
    (h : (Shape.record name fields packing).decode d = .ok a) :
    (∃ members, fields.Reads members (packing.unpack a)) ∨
      ∃ items closed,
        fields.decodeArray name fields.size 0 items closed = .ok (packing.unpack a) := by
  cases d with
  | object members closed => exact .inl ⟨members, (decode_record_object_iff.mp h).2.2⟩
  | array items closed =>
    have hitems : fields.decodeArray name fields.size 0 items closed =
        .ok (packing.unpack a) := by
      rw [← map_pack_eq_ok_iff, ← h]
      rfl
    exact .inr ⟨items, closed, hitems⟩
  | deep content => cases content <;> cases h
  | _ => cases h

/-- Whatever an open record is read from, its fields were read and the other members kept. -/
theorem decode_openRecord_eq_ok {α β : Type} {name : String} {fields : Fields β}
    {packing : Packing (β × Dictionary) α} {d : Draft} {a : α}
    (h : (Shape.openRecord name fields packing).decode d = .ok a) :
    ∃ members, fields.Reads members (packing.unpack a).1 ∧
      Dictionary.ofList (others fields.names members) = (packing.unpack a).2 := by
  cases d with
  | object members closed => exact ⟨members, (decode_openRecord_object_iff.mp h).2.2⟩
  | deep content => cases content <;> cases h
  | _ => cases h

/-- No member that is kept has the name of a field. -/
theorem not_mem_of_mem_others {names : List String} {members : List (Option String × Draft)}
    {kept : String × Datum} (h : kept ∈ others names members) : kept.1 ∉ names := by
  induction members with
  | nil => cases h
  | cons member members ih =>
    obtain ⟨_ | name, value⟩ := member
    · exact ih h
    · rw [others] at h
      split at h
      · split at h
        · exact ih h
        · rename_i hname
          rcases List.mem_cons.mp h with rfl | h
          · simpa using hname
          · exact ih h
      · exact ih h

mutual

/-- What has been read survives. -/
theorem Shape.survives_of_decode : {α : Type} → (shape : Shape α) → shape.IsLawful → {d : Draft} →
    {a : α} → shape.decode d = .ok a → shape.Survives a
  | _, .boolean, _, _, _, _ => trivial
  | _, .int64, _, _, _, _ => trivial
  | _, .nat64, _, _, _, _ => trivial
  | _, .text, _, _, _, _ => trivial
  | _, .datum, _, _, _, _ => trivial
  | _, .dictionary, _, _, _, _ => trivial
  | _, .choice _ _, _, _, _, _ => trivial
  | _, .optional shape, hlawful, d, a, h => by
    rintro value ⟨⟩
    -- null would have been read as no value
    have hne : d ≠ .null := by
      rintro rfl
      cases h
    rw [decode_optional_of_ne shape hne, map_eq_ok_iff] at h
    obtain ⟨value, hvalue, heq⟩ := h
    cases heq
    exact ⟨shape.encode_ne_null_of_decode hvalue hne, shape.survives_of_decode hlawful hvalue⟩
  | _, .nullAs value shape, hlawful, d, a, h => by
    by_cases hnull : d = .null
    · subst hnull
      cases h
      exact hlawful.2.1
    · rw [decode_nullAs_of_ne value shape hnull] at h
      exact shape.survives_of_decode hlawful.1 h
  | _, .list shape, hlawful, d, values, h => by
    intro value hvalue
    obtain ⟨item, hitem⟩ := exists_item_of_decode_list h value hvalue
    exact shape.survives_of_decode hlawful hitem
  | _, .record name fields packing, hlawful, d, a, h => by
    rcases decode_record_eq_ok h with ⟨members, hreads⟩ | ⟨items, closed, harray⟩
    · exact fields.survive_of_reads hlawful.2 hreads
    · exact fields.survive_of_decodeArray hlawful.2 harray
  | _, .openRecord name fields packing, hlawful, d, a, h => by
    obtain ⟨members, hreads, hkept⟩ := decode_openRecord_eq_ok h
    constructor
    · exact fields.survive_of_reads hlawful.2 hreads
    · rw [← hkept]
      intro kept hmem
      exact not_mem_of_mem_others (Members.mem_of_mem_ofList hmem)

/-- Fields that are read from an object survive: a default does, and so does what is read. -/
theorem Fields.survive_of_reads : {β : Type} → (fields : Fields β) → fields.AreLawful →
    {members : List (Option String × Draft)} → {b : β} → fields.Reads members b → fields.Survive b
  | _, .done, _, _, _, _ => trivial
  | _, .field name shape absence rest, hlawful, members, (a, b), h => by
    refine ⟨?_, rest.survive_of_reads hlawful.2.2 h.2⟩
    obtain ⟨hfirst, -⟩ := h
    generalize valuesOf name members = values at hfirst
    cases hfirst with
    | absent ha => exact hlawful.2.1.inObject a ha
    | present hd => exact shape.survives_of_decode hlawful.1 hd

/-- Fields that are read from an array survive. -/
theorem Fields.survive_of_decodeArray : {β : Type} → (fields : Fields β) → fields.AreLawful →
    {record : String} → {size index : Nat} → {items : List Draft} → {closed : Bool} → {b : β} →
    fields.decodeArray record size index items closed = .ok b → fields.Survive b
  | _, .done, _, _, _, _, _, _, _, _ => trivial
  | _, .field _ shape _ rest, hlawful, record, size, index, item :: items, closed, (a, b), h => by
    rw [Fields.decodeArray, do_bind_eq_ok_iff] at h
    obtain ⟨a', ha, h⟩ := h
    rw [do_bind_eq_ok_iff] at h
    obtain ⟨b', hb, heq⟩ := h
    cases heq
    exact ⟨shape.survives_of_decode hlawful.1 ha, rest.survive_of_decodeArray hlawful.2.2 hb⟩
  | _, .field _ shape absence rest, hlawful, record, size, index, [], closed, (a, b), h => by
    rw [Fields.decodeArray] at h
    split at h
    · cases h
    · split at h
      · rename_i value hvalue
        obtain ⟨b', hb, heq⟩ := do_bind_eq_ok_iff.mp h
        cases heq
        exact ⟨hlawful.2.1.inArray a hvalue, rest.survive_of_decodeArray hlawful.2.2 hb⟩
      · cases h

end

/-- A field of a shape that loses nothing asks for nothing. -/
theorem Fields.survive_field_iff {α β : Type} {name : String} {shape : Shape α}
    {absence : Absence α} {rest : Fields β} {a : α} {b : β} (h : shape.losesNothing = true) :
    (field name shape absence rest).Survive (a, b) ↔ rest.Survive b :=
  and_iff_right (shape.survives_of_losesNothing h a)

/-- A value survives exactly when it is read back. -/
theorem Shape.decode_encode_iff {α : Type} {shape : Shape α} (hlawful : shape.IsLawful) {a : α} :
    shape.decodeJson (shape.encode a) = .ok a ↔ shape.Survives a :=
  ⟨shape.survives_of_decode hlawful, shape.decode_encode hlawful a⟩

/-- Whatever a text was read as survives. -/
theorem Shape.survives_of_decodeText {α : Type} {shape : Shape α} (hlawful : shape.IsLawful)
    {s : String} {a : α} (h : shape.decodeText s = .ok a) : shape.Survives a := by
  obtain ⟨a', ha, hends⟩ := do_bind_eq_ok_iff.mp h
  split at hends
  · cases hends
    exact shape.survives_of_decode hlawful ha
  · cases hends

end CiClient.Json

/-! ## The records of the catalog -/

namespace CiClient

open Json (Shape Fields)

/-- Only one datum stands for null. -/
theorem Datum.json_eq_null_iff {datum : Datum} : datum.json = .null ↔ datum = .null := by
  constructor
  · obtain ⟨j, hj⟩ := datum
    rintro ⟨⟩
    rfl
  · rintro rfl
    rfl

/-- No further member of a task has the name of a field. -/
def Record.Task.IsTidy (task : Record.Task) : Prop :=
  ∀ member ∈ task.extra.members, member.1 ∉ ["_class", "name", "url", "color"]

namespace RecordKind

/-- The item that a job waits as is not null, and the task of an item of the queue is tidy. -/
def IsTidy : (kind : RecordKind) → kind.Carrier → Prop
  | .jobInfo, info => Record.JobInfo.queueItem info ≠ some .null
  | .queueItem, item => ∀ task ∈ Record.QueueItem.task item, task.IsTidy
  | .buildRef, _ | .build, _ | .job, _ | .jobList, _ | .pluginList, _ | .load, _ => True
  | .serverInfo, _ | .user, _ | .tokenGrant, _ | .consoleText, _ => True
  | .failure, _ | .verdict, _ | .ticket, _ | .settings, _ => True

/-- A job survives unless the item that it waits as is null. -/
theorem survives_jobInfo_iff {info : Record.JobInfo} :
    Record.JobInfo.shape.Survives info ↔ info.queueItem ≠ some .null := by
  have hitem : (Shape.optional .datum).Survives info.queueItem ↔
      info.queueItem ≠ some .null := by
    cases info.queueItem with
    | none => exact iff_of_true nofun nofun
    | some datum =>
      have hnull : Shape.datum.encode datum = .null ↔ datum = .null := Datum.json_eq_null_iff
      simp [hnull]
  rw [Record.JobInfo.shape, Shape.Survives]
  simp (disch := decide) only [Fields.optional, Fields.required, Fields.withDefault, Fields.many,
    Fields.survive_field_iff]
  rw [Fields.Survive, Fields.survive_field_iff rfl, hitem]
  exact and_iff_left trivial

/-- A task survives exactly when it is tidy. -/
theorem survives_task_iff {task : Record.Task} : Record.Task.shape.Survives task ↔ task.IsTidy :=
  and_iff_right (Fields.survive_of_loseNothing _ rfl _)

/-- An item of the queue survives exactly when its task does. -/
theorem survives_queueItem_iff {item : Record.QueueItem} :
    Record.QueueItem.shape.Survives item ↔ ∀ task ∈ item.task, task.IsTidy := by
  have htask : (Shape.optional Record.Task.shape).Survives item.task ↔
      ∀ task ∈ item.task, task.IsTidy := by
    apply forall₂_congr
    intro task _
    rw [survives_task_iff]
    exact and_iff_right (Shape.encode_ne_null _ rfl task)
  rw [Record.QueueItem.shape, Shape.Survives]
  simp (disch := decide) only [Fields.optional, Fields.required, Fields.withDefault, Fields.many,
    Fields.survive_field_iff]
  rw [Fields.Survive, htask]
  exact and_iff_left (Fields.survive_of_loseNothing _ rfl _)

/-- The two conditions are those under which a record survives. -/
theorem survives_shape_iff {kind : RecordKind} {v : kind.Carrier} :
    kind.shape.Survives v ↔ kind.IsTidy v := by
  cases kind with
  | jobInfo => exact survives_jobInfo_iff
  | queueItem => exact survives_queueItem_iff
  | _ => exact iff_of_true (Shape.survives_of_losesNothing _ rfl v) trivial

/-- A record is read back from what is written of it exactly when it is tidy, and whatever has been
read, from a value or from a text, is tidy and read back. -/
theorem read_back (kind : RecordKind) :
    (∀ v, kind.shape.decodeJson (kind.shape.encode v) = .ok v ↔ kind.IsTidy v) ∧
    (∀ j v, kind.shape.decodeJson j = .ok v →
      kind.IsTidy v ∧ kind.shape.decodeJson (kind.shape.encode v) = .ok v) ∧
    ∀ s v, kind.shape.decodeText s = .ok v →
      kind.IsTidy v ∧ kind.shape.decodeJson (kind.shape.encode v) = .ok v := by
  have hlawful := kind.isLawful_shape
  have htidy : ∀ v, kind.shape.Survives v →
      kind.IsTidy v ∧ kind.shape.decodeJson (kind.shape.encode v) = .ok v := by
    intro v hv
    exact ⟨survives_shape_iff.mp hv, (Shape.decode_encode_iff hlawful).mpr hv⟩
  refine ⟨?_, ?_, ?_⟩
  · intro v
    rw [Shape.decode_encode_iff hlawful, survives_shape_iff]
  · intro j v h
    exact htidy v (kind.shape.survives_of_decode hlawful h)
  · intro s v h
    exact htidy v (Shape.survives_of_decodeText hlawful h)

/-- An item of the queue whose task has a further member. -/
def waiting : Record.QueueItem :=
  ⟨none, 7, false, false, false, true, 0, none, none, some "quiet period",
    some ⟨none, some "app", none, none, .ofList [("offline", .null)]⟩, none, []⟩

/-- How the server may send that item: in another order, with what is absent spelled out or left
out. -/
def waitingSent : Json :=
  .object [("why", .text "quiet period"), ("stuck", .boolean true),
    ("task", .object [("offline", .null), ("name", .text "app"), ("url", .null)]),
    ("id", .number (.integer 7)), ("actions", .null)]

/-- The item is tidy, and it is read from what was sent and from what is written of it. -/
theorem waiting_read_back :
    queueItem.IsTidy waiting ∧
      queueItem.shape.decodeJson (queueItem.shape.encode waiting) = .ok waiting ∧
      queueItem.shape.decodeJson waitingSent = .ok waiting := by
  have hread : queueItem.shape.decodeJson waitingSent = .ok waiting := rfl
  obtain ⟨htidy, hback⟩ := (read_back queueItem).2.1 _ _ hread
  exact ⟨htidy, hback, hread⟩

end RecordKind
end CiClient
