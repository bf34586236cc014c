import CiClient.Proofs.RecordReading
import CiClient.Record.Catalog

/-!
# Laws of shapes

Not every shape can be read back from what it writes: a value that is written as null, in a place
where null means that there is none, is lost, and so is a kept member that has the name of a field.
`Shape.Survives` says of one value that nothing of the kind happens anywhere in it.
`Shape.losesNothing` checks a shape for places where it can happen.

A lawful shape has fields of distinct names, and what stands in for a missing field is what a reader
gets where the absence is spelled out. All records of the catalog have lawful shapes.
-/

set_option autoImplicit false

namespace CiClient.Json

/-! ## Values that survive -/

mutual

/-- Nothing of a value is lost between writing and reading. -/
@[simp] def Shape.Survives : {α : Type} → Shape α → α → Prop
  | _, .boolean, _ | _, .int64, _ | _, .nat64, _ | _, .text, _ | _, .datum, _ => True
  | _, .dictionary, _ | _, .choice _ _, _ => True
  | _, .optional shape, a => ∀ value ∈ a, shape.encode value ≠ .null ∧ shape.Survives value
  | _, .nullAs _ shape, a => shape.Survives a
  | _, .list shape, values => ∀ value ∈ values, shape.Survives value
  | _, .record _ fields packing, a => fields.Survive (packing.unpack a)
  | _, .openRecord _ fields packing, a =>
    fields.Survive (packing.unpack a).1 ∧
      ∀ member ∈ (packing.unpack a).2.members, member.1 ∉ fields.names

/-- The same of the fields of a record. -/
@[simp] def Fields.Survive : {β : Type} → Fields β → β → Prop
  | _, .done, _ => True
  | _, .field _ shape _ rest, (a, b) => shape.Survives a ∧ rest.Survive b

end

/-- Whether some value of a shape is written as null. -/
def Shape.mayBeNull : {α : Type} → Shape α → Bool
  | _, .boolean | _, .int64 | _, .nat64 | _, .text | _, .dictionary => false
  | _, .choice _ _ | _, .list _ | _, .record _ _ _ | _, .openRecord _ _ _ => false
  | _, .datum | _, .optional _ => true
  | _, .nullAs _ shape => shape.mayBeNull

mutual

/-- Whether a shape has no place where something can be lost. -/
def Shape.losesNothing : {α : Type} → Shape α → Bool
  | _, .boolean | _, .int64 | _, .nat64 | _, .text | _, .datum => true
  | _, .dictionary | _, .choice _ _ => true
  | _, .optional shape => !shape.mayBeNull && shape.losesNothing
  | _, .nullAs _ shape => shape.losesNothing
  | _, .list shape => shape.losesNothing
  | _, .record _ fields _ => fields.loseNothing
  | _, .openRecord _ _ _ => false

/-- The same of the fields of a record. -/
def Fields.loseNothing : {β : Type} → Fields β → Bool
  | _, .done => true
  | _, .field _ shape _ rest => shape.losesNothing && rest.loseNothing

end

/-- By recursion on the shape: where no value is written as null, this one is not. -/
theorem Shape.encode_ne_null : {α : Type} → (shape : Shape α) → shape.mayBeNull = false →
    (a : α) → shape.encode a ≠ .null
  | _, .boolean, _, _ => Json.noConfusion
  | _, .int64, _, _ => Json.noConfusion
  | _, .nat64, _, _ => Json.noConfusion
  | _, .text, _, _ => Json.noConfusion
  | _, .dictionary, _, _ => Json.noConfusion
  | _, .choice _ _, _, _ => Json.noConfusion
  | _, .list _, _, _ => Json.noConfusion
  | _, .record _ _ _, _, _ => Json.noConfusion
  | _, .openRecord _ _ _, _, _ => Json.noConfusion
  | _, .nullAs _ shape, h, a => shape.encode_ne_null h a

mutual

/-- Where nothing can be lost, every value survives. -/
theorem Shape.survives_of_losesNothing : {α : Type} → (shape : Shape α) →
    shape.losesNothing = true → (a : α) → shape.Survives a
  | _, .boolean, _, _ => trivial
  | _, .int64, _, _ => trivial
  | _, .nat64, _, _ => trivial
  | _, .text, _, _ => trivial
  | _, .datum, _, _ => trivial
  | _, .dictionary, _, _ => trivial
  | _, .choice _ _, _, _ => trivial
  | _, .optional shape, h, a => by
    rw [Shape.losesNothing, Bool.and_eq_true, Bool.not_eq_true'] at h
    exact fun value _ =>
      ⟨shape.encode_ne_null h.1 value, shape.survives_of_losesNothing h.2 value⟩
  | _, .nullAs _ shape, h, a => shape.survives_of_losesNothing h a
  | _, .list shape, h, _ => fun value _ => shape.survives_of_losesNothing h value
  | _, .record _ fields packing, h, a => fields.survive_of_loseNothing h (packing.unpack a)

/-- The same of the fields of a record. -/
theorem Fields.survive_of_loseNothing : {β : Type} → (fields : Fields β) →
    fields.loseNothing = true → (b : β) → fields.Survive b
  | _, .done, _, _ => trivial
  | _, .field _ shape _ rest, h, (a, b) => by
    rw [Fields.loseNothing, Bool.and_eq_true] at h
    exact ⟨shape.survives_of_losesNothing h.1 a, rest.survive_of_loseNothing h.2 b⟩

end

/-! ## Lawful shapes -/

/-- The empty collection of a shape of collections. -/
def Shape.emptyForms : {α : Type} → Shape α → List Json
  | _, .list _ => [.array []]
  | _, .dictionary => [.object []]
  | _, _ => []

/-- How the absence of a field may be spelled out: by null where the field may be null, and by the
empty collection where null stands for one. -/
def Shape.absenceForms : {α : Type} → Shape α → List Json
  | _, .optional _ => [.null]
  | _, .datum => [.null]
  | _, .nullAs _ shape => .null :: shape.emptyForms
  | _, .boolean => []
  | _, .int64 => []
  | _, .nat64 => []
  | _, .text => []
  | _, .dictionary => []
  | _, .choice _ _ => []
  | _, .list _ => []
  | _, .record _ _ _ => []
  | _, .openRecord _ _ _ => []

/-- What stands in for a missing field survives, and it is what is read where the absence is
spelled out. -/
structure Absence.Suits {α : Type} (absence : Absence α) (shape : Shape α) : Prop where
  inObject : ∀ a ∈ absence.inObject, shape.Survives a
  inArray : ∀ a ∈ absence.inArray, shape.Survives a
  forms : ∀ j ∈ shape.absenceForms, ∃ a ∈ absence.inObject, shape.decodeJson j = .ok a

mutual

/-- A shape without fields of one name and without a default that belies the absence it stands
for. -/
@[simp] def Shape.IsLawful : {α : Type} → Shape α → Prop
  | _, .boolean | _, .int64 | _, .nat64 | _, .text | _, .datum | _, .dictionary => True
  | _, .choice names name => ∀ a, Members.get? names (name a) = some a
  | _, .optional shape => shape.IsLawful
  | _, .nullAs value shape => shape.IsLawful ∧ shape.Survives value ∧ shape.mayBeNull = false
  | _, .list shape => shape.IsLawful
  | _, .record _ fields _ => fields.names.Nodup ∧ fields.AreLawful
  | _, .openRecord _ fields _ => fields.names.Nodup ∧ fields.AreLawful

/-- The fields have lawful shapes, and what stands in for a missing one suits its shape. -/
def Fields.AreLawful : {β : Type} → Fields β → Prop
  | _, .done => True
  | _, .field _ shape absence rest => shape.IsLawful ∧ absence.Suits shape ∧ rest.AreLawful

end

/-- A record is lawful when its fields are. -/
theorem Shape.isLawful_record {α β : Type} {name : String} {fields : Fields β}
    {packing : Packing β α} (hnames : fields.names.Nodup) (hfields : fields.AreLawful) :
    (Shape.record name fields packing).IsLawful :=
  ⟨hnames, hfields⟩

/-- So is an open record. -/
theorem Shape.isLawful_openRecord {α β : Type} {name : String} {fields : Fields β}
    {packing : Packing (β × Dictionary) α} (hnames : fields.names.Nodup)
    (hfields : fields.AreLawful) : (Shape.openRecord name fields packing).IsLawful :=
  ⟨hnames, hfields⟩

namespace Fields

variable {α β : Type} {name : String} {shape : Shape α} {rest : Fields β}

/-- No fields are lawful. -/
@[simp] theorem areLawful_done : done.AreLawful := trivial

/-- A field that has to be there must not have a shape that can spell out an absence. -/
@[simp] theorem areLawful_required :
    (required name shape rest).AreLawful ↔
      shape.IsLawful ∧ shape.absenceForms = [] ∧ rest.AreLawful := by
  refine and_congr_right fun _ => and_congr_left fun _ => ?_
  constructor
  · intro h
    refine List.eq_nil_iff_forall_not_mem.mpr fun j hj => ?_
    obtain ⟨a, ha, -⟩ := h.forms j hj
    cases ha
  · intro h
    exact ⟨nofun, nofun, by simp [h]⟩

/-- A default must survive and be read from every form of absence. -/
@[simp] theorem areLawful_withDefault {value : α} :
    (withDefault name shape value rest).AreLawful ↔
      shape.IsLawful ∧ (shape.Survives value ∧
        ∀ j ∈ shape.absenceForms, shape.decodeJson j = .ok value) ∧ rest.AreLawful := by
  refine and_congr_right fun _ => and_congr_left fun _ => ?_
  constructor
  · intro h
    refine ⟨h.inObject value rfl, fun j hj => ?_⟩
    obtain ⟨a, ha, hread⟩ := h.forms j hj
    cases ha
    exact hread
  · rintro ⟨hvalue, hforms⟩
    refine ⟨?_, ?_, fun j hj => ⟨value, rfl, hforms j hj⟩⟩
    · rintro a ⟨⟩
      exact hvalue
    · rintro a ⟨⟩
      exact hvalue

/-- An optional field reads null as what it has when it is missing. -/
@[simp] theorem areLawful_optional :
    (optional name shape rest).AreLawful ↔ shape.IsLawful ∧ rest.AreLawful := by
  have hforms : ∀ j ∈ (Shape.optional shape).absenceForms,
      (Shape.optional shape).decodeJson j = .ok none := by
    intro j hj
    rw [List.mem_singleton.mp hj]
    rfl
  refine areLawful_withDefault.trans (and_congr_right fun _ => ?_)
  exact and_iff_right ⟨nofun, hforms⟩

/-- So does a field that may be null. -/
@[simp] theorem areLawful_nullable :
    (nullable name shape rest).AreLawful ↔ shape.IsLawful ∧ rest.AreLawful := by
  refine and_congr_right fun _ => and_iff_right ⟨?_, nofun, ?_⟩
  · rintro a ⟨⟩
    exact nofun
  · intro j hj
    rw [List.mem_singleton.mp hj]
    exact ⟨none, rfl, rfl⟩

/-- A list reads null and the empty array as the empty list. -/
@[simp] theorem areLawful_many :
    (many name shape rest).AreLawful ↔ shape.IsLawful ∧ rest.AreLawful := by
  have hforms : ∀ j ∈ (Shape.nullAs [] (.list shape)).absenceForms,
      (Shape.nullAs [] (.list shape)).decodeJson j = .ok [] := by
    intro j hj
    rcases List.mem_cons.mp hj with rfl | hj
    · rfl
    · rw [List.mem_singleton.mp hj]
      rfl
  refine areLawful_withDefault.trans (and_congr ?_ ?_)
  · exact and_iff_left ⟨nofun, rfl⟩
  · exact and_iff_right ⟨nofun, hforms⟩

/-- A series reads null and the empty object as the empty dictionary. -/
@[simp] theorem areLawful_series :
    (Record.Load.series name rest).AreLawful ↔ rest.AreLawful := by
  have hforms : ∀ j ∈ (Shape.nullAs Dictionary.empty .dictionary).absenceForms,
      (Shape.nullAs Dictionary.empty .dictionary).decodeJson j = .ok .empty := by
    intro j hj
    rcases List.mem_cons.mp hj with rfl | hj
    · rfl
    · rw [List.mem_singleton.mp hj]
      rfl
  refine areLawful_withDefault.trans ?_
  rw [and_iff_right ⟨trivial, trivial, rfl⟩, and_iff_right ⟨trivial, hforms⟩]

end Fields
end CiClient.Json

/-! ## The records of the catalog -/

namespace CiClient

open Json (Shape)

/-- Every kind of failure has a name of its own, by which it is found again. -/
theorem Failure.isLawful_shape : Failure.shape.IsLawful := by
  have hname : ∀ kind : FailureKind, Members.get? FailureKind.names kind.name = some kind := by
    intro kind
    cases kind <;> rfl
  refine Shape.isLawful_record (by decide) ?_
  simp [FailureKind.shape, Shape.absenceForms, hname]

/-- A missing list of failures is the empty one. -/
theorem Failure.areLawful_listField : Failure.listField.AreLawful := by
  simp [Failure.listField, Failure.isLawful_shape, Shape.absenceForms]

/-- A verdict must have its answer. -/
theorem Verdict.isLawful_shape : Verdict.shape.IsLawful :=
  Shape.isLawful_record (by decide) (by simp [Shape.absenceForms, Failure.areLawful_listField])

/-- The number of a ticket may be null. -/
theorem Ticket.isLawful_shape : Ticket.shape.IsLawful :=
  Shape.isLawful_record (by decide) (by simp [Failure.areLawful_listField])

/-- No field of settings that has a default may be null. -/
theorem Settings.isLawful_shape : Settings.shape.IsLawful :=
  Shape.isLawful_record (by decide) (by simp [Shape.absenceForms])

namespace Record

/-- A reference to a build must have its number, and its address may be missing. -/
theorem BuildRef.isLawful_shape : BuildRef.shape.IsLawful :=
  Shape.isLawful_record (by decide) (by simp [Shape.absenceForms])

/-- A kept file must have its name and its path. -/
theorem Artifact.isLawful_shape : Artifact.shape.IsLawful :=
  Shape.isLawful_record (by decide) (by simp [Shape.absenceForms])

/-- All fields of a cause are optional. -/
theorem Cause.isLawful_shape : Cause.shape.IsLawful :=
  Shape.isLawful_record (by decide) (by simp)

/-- The value of a parameter is null when it is missing, and null is read as that. -/
theorem Parameter.isLawful_shape : Parameter.shape.IsLawful := by
  have hnull : Shape.datum.decodeJson .null = .ok .null := rfl
  exact Shape.isLawful_record (by decide) (by simp [Shape.absenceForms, hnull])

/-- Both texts of a branch are empty when they are missing. -/
theorem Branch.isLawful_shape : Branch.shape.IsLawful :=
  Shape.isLawful_record (by decide) (by simp [Shape.absenceForms])

/-- A revision lists branches, which are lawful. -/
theorem Revision.isLawful_shape : Revision.shape.IsLawful :=
  Shape.isLawful_record (by decide) (by simp [Branch.isLawful_shape])

/-- A part of the record of a build holds causes, parameters and a revision, all of them lawful. -/
theorem Action.isLawful_shape : Action.shape.IsLawful :=
  Shape.isLawful_record (by decide)
    (by simp [Cause.isLawful_shape, Parameter.isLawful_shape, Revision.isLawful_shape])

/-- A contributor must have a full name. -/
theorem Culprit.isLawful_shape : Culprit.shape.IsLawful :=
  Shape.isLawful_record (by decide) (by simp [Shape.absenceForms])

/-- A change holds its author, who is lawful. -/
theorem ChangeSet.isLawful_shape : ChangeSet.shape.IsLawful :=
  Shape.isLawful_record (by decide) (by simp [Shape.absenceForms, Culprit.isLawful_shape])

/-- The changes from one repository are lawful. -/
theorem ChangeSetList.isLawful_shape : ChangeSetList.shape.IsLawful :=
  Shape.isLawful_record (by decide) (by simp [ChangeSet.isLawful_shape])

/-- Its number is all that a build must have, and the records in it are lawful. -/
theorem Build.isLawful_shape : Build.shape.IsLawful :=
  Shape.isLawful_record (by decide)
    (by simp [Shape.absenceForms, Artifact.isLawful_shape, Action.isLawful_shape,
      ChangeSetList.isLawful_shape, Culprit.isLawful_shape])

/-- A part of the console output must be there as a whole. -/
theorem ConsoleText.isLawful_shape : ConsoleText.shape.IsLawful :=
  Shape.isLawful_record (by decide) (by simp [Shape.absenceForms])

/-- An entry of a job listing must have a name. -/
theorem Job.isLawful_shape : Job.shape.IsLawful :=
  Shape.isLawful_record (by decide) (by simp [Shape.absenceForms])

/-- A job listing holds entries, which are lawful. -/
theorem JobList.isLawful_shape : JobList.shape.IsLawful :=
  Shape.isLawful_record (by decide) (by simp [Job.isLawful_shape])

/-- A job holds references to builds, which are lawful. -/
theorem JobInfo.isLawful_shape : JobInfo.shape.IsLawful :=
  Shape.isLawful_record (by decide) (by simp [Shape.absenceForms, BuildRef.isLawful_shape])

/-- Each series of the load may be missing. -/
theorem Load.isLawful_shape : Load.shape.IsLawful :=
  Shape.isLawful_record (by decide) (by simp)

/-- What a plugin does not say is missing or false. -/
theorem Plugin.isLawful_shape : Plugin.shape.IsLawful :=
  Shape.isLawful_record (by decide) (by simp [Shape.absenceForms])

/-- A list of plugins holds lawful ones. -/
theorem PluginList.isLawful_shape : PluginList.shape.IsLawful :=
  Shape.isLawful_record (by decide) (by simp [Plugin.isLawful_shape])

/-- The build of an item must have its number. -/
theorem Executable.isLawful_shape : Executable.shape.IsLawful :=
  Shape.isLawful_record (by decide) (by simp [Shape.absenceForms])

/-- All fields of a task are optional, and further members may come. -/
theorem Task.isLawful_shape : Task.shape.IsLawful :=
  Shape.isLawful_openRecord (by decide) (by simp)

/-- An item of the queue holds its task and the build it has become, which are lawful. -/
theorem QueueItem.isLawful_shape : QueueItem.shape.IsLawful :=
  Shape.isLawful_record (by decide)
    (by simp [Shape.absenceForms, Task.isLawful_shape, Executable.isLawful_shape])

/-- A user must have an identity. -/
theorem User.isLawful_shape : User.shape.IsLawful :=
  Shape.isLawful_record (by decide) (by simp [Shape.absenceForms])

/-- A token must be there as a whole. -/
theorem Token.isLawful_shape : Token.shape.IsLawful :=
  Shape.isLawful_record (by decide) (by simp [Shape.absenceForms])

/-- The answer to a request for a token may hold one, which is lawful. -/
theorem TokenGrant.isLawful_shape : TokenGrant.shape.IsLawful :=
  Shape.isLawful_record (by decide) (by simp [Shape.absenceForms, Token.isLawful_shape])

/-- What is not known about the server is null, and its failures are lawful. -/
theorem ServerInfo.isLawful_shape : ServerInfo.shape.IsLawful :=
  Shape.isLawful_record (by decide) (by simp [CiClient.Failure.isLawful_shape])

end Record

namespace RecordKind

/-- All records that stand on their own have lawful shapes. -/
theorem isLawful_shape (kind : RecordKind) : kind.shape.IsLawful := by
  cases kind with
  | buildRef => exact Record.BuildRef.isLawful_shape
  | build => exact Record.Build.isLawful_shape
  | job => exact Record.Job.isLawful_shape
  | jobList => exact Record.JobList.isLawful_shape
  | jobInfo => exact Record.JobInfo.isLawful_shape
  | pluginList => exact Record.PluginList.isLawful_shape
  | queueItem => exact Record.QueueItem.isLawful_shape
  | load => exact Record.Load.isLawful_shape
  | serverInfo => exact Record.ServerInfo.isLawful_shape
  | user => exact Record.User.isLawful_shape
  | tokenGrant => exact Record.TokenGrant.isLawful_shape
  | consoleText => exact Record.ConsoleText.isLawful_shape
  | failure => exact Failure.isLawful_shape
  | verdict => exact Verdict.isLawful_shape
  | ticket => exact Ticket.isLawful_shape
  | settings => exact Settings.isLawful_shape

end RecordKind
end CiClient
