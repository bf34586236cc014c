import CiClient.Json.Shape

/-!
# Builds

What the server tells about one run of a job: how it was started, with which parameters, what
changed, and what came of it.
-/

set_option autoImplicit false

namespace CiClient.Record

open Json (Shape Fields)

/-- A build by its number. -/
structure BuildRef where
  number : Int64
  url : Option String

/-- How a reference to a build is written; its number is never left out. -/
def BuildRef.shape : Shape BuildRef :=
  .record "BuildRef"
    (.required "number" .int64 <|
      .optional "url" .text .done)
    ⟨fun (number, url, ()) => ⟨number, url⟩,
      fun r => (r.number, r.url, ()), fun _ => rfl, fun _ => rfl⟩

/-- A file that a build keeps. -/
structure Artifact where
  displayPath : Option String
  fileName : String
  relativePath : String

/-- How a kept file is written; it has a name and a path. -/
def Artifact.shape : Shape Artifact :=
  .record "Artifact"
    (.optional "displayPath" .text <|
      .required "fileName" .text <|
      .required "relativePath" .text .done)
    ⟨fun (displayPath, fileName, relativePath, ()) => ⟨displayPath, fileName, relativePath⟩,
      fun r => (r.displayPath, r.fileName, r.relativePath, ()), fun _ => rfl, fun _ => rfl⟩

/-- What started a build. -/
structure Cause where
  className : Option String
  shortDescription : Option String
  userId : Option String
  userName : Option String

/-- How a cause is written; every part of it may be missing. -/
def Cause.shape : Shape Cause :=
  .record "Cause"
    (.optional "_class" .text <|
      .optional "shortDescription" .text <|
      .optional "userId" .text <|
      .optional "userName" .text .done)
    ⟨fun (className, shortDescription, userId, userName, ()) =>
        ⟨className, shortDescription, userId, userName⟩,
      fun r => (r.className, r.shortDescription, r.userId, r.userName, ()),
      fun _ => rfl, fun _ => rfl⟩

/-- A parameter with its value, whatever kind it is of. -/
structure Parameter where
  className : Option String
  name : String
  value : Datum

/-- How a parameter is written; without a value it has the value null. -/
def Parameter.shape : Shape Parameter :=
  .record "Parameter"
    (.optional "_class" .text <|
      .required "name" .text <|
      .withDefault "value" .datum .null .done)
    ⟨fun (className, name, value, ()) => ⟨className, name, value⟩,
      fun r => (r.className, r.name, r.value, ()), fun _ => rfl, fun _ => rfl⟩

/-- A branch with the revision it stood at. -/
structure Branch where
  sha1 : String
  name : String

/-- How a branch is written; what is left out is empty. -/
def Branch.shape : Shape Branch :=
  .record "Branch"
    (.withDefault "SHA1" .text "" <|
      .withDefault "name" .text "" .done)
    ⟨fun (sha1, name, ()) => ⟨sha1, name⟩,
      fun r => (r.sha1, r.name, ()), fun _ => rfl, fun _ => rfl⟩

/-- A revision of the sources. -/
structure Revision where
  sha1 : Option String
  branches : List Branch

/-- How a revision is written. -/
def Revision.shape : Shape Revision :=
  .record "Revision"
    (.optional "SHA1" .text <|
      .many "branch" Branch.shape .done)
    ⟨fun (sha1, branches, ()) => ⟨sha1, branches⟩,
      fun r => (r.sha1, r.branches, ()), fun _ => rfl, fun _ => rfl⟩

/-- A part of a build's record: causes, parameters or the revision that was built. -/
structure Action where
  className : Option String
  causes : List Cause
  parameters : List Parameter
  lastBuiltRevision : Option Revision
  text : Option String
  iconFileName : Option String

/-- How a part of the record of a build is written; parts of all kinds share one form. -/
def Action.shape : Shape Action :=
  .record "Action"
    (.optional "_class" .text <|
      .many "causes" Cause.shape <|
      .many "parameters" Parameter.shape <|
      .optional "lastBuiltRevision" Revision.shape <|
      .optional "text" .text <|
      .optional "iconFileName" .text .done)
    ⟨fun (className, causes, parameters, lastBuiltRevision, text, iconFileName, ()) =>
        ⟨className, causes, parameters, lastBuiltRevision, text, iconFileName⟩,
      fun r => (r.className, r.causes, r.parameters, r.lastBuiltRevision, r.text,
        r.iconFileName, ()),
      fun _ => rfl, fun _ => rfl⟩

/-- Who contributed a change. -/
structure Culprit where
  absoluteUrl : Option String
  fullName : String

/-- How a contributor is written; the full name is never left out. -/
def Culprit.shape : Shape Culprit :=
  .record "Culprit"
    (.optional "absoluteUrl" .text <|
      .required "fullName" .text .done)
    ⟨fun (absoluteUrl, fullName, ()) => ⟨absoluteUrl, fullName⟩,
      fun r => (r.absoluteUrl, r.fullName, ()), fun _ => rfl, fun _ => rfl⟩

/-- A change of the sources. -/
structure ChangeSet where
  affectedPaths : List String
  commitId : Option String
  timestamp : Int64
  author : Option Culprit
  authorEmail : Option String
  comment : Option String
  msg : Option String

/-- How a change is written. -/
def ChangeSet.shape : Shape ChangeSet :=
  .record "ChangeSet"
    (.many "affectedPaths" .text <|
      .optional "commitId" .text <|
      .withDefault "timestamp" .int64 0 <|
      .optional "author" Culprit.shape <|
      .optional "authorEmail" .text <|
      .optional "comment" .text <|
      .optional "msg" .text .done)
    ⟨fun (affectedPaths, commitId, timestamp, author, authorEmail, comment, msg, ()) =>
        ⟨affectedPaths, commitId, timestamp, author, authorEmail, comment, msg⟩,
      fun r => (r.affectedPaths, r.commitId, r.timestamp, r.author, r.authorEmail, r.comment,
        r.msg, ()),
      fun _ => rfl, fun _ => rfl⟩

/-- The changes from one repository. -/
structure ChangeSetList where
  items : List ChangeSet
  kind : Option String

/-- How the changes from one repository are written. -/
def ChangeSetList.shape : Shape ChangeSetList :=
  .record "ChangeSetList"
    (.many "items" ChangeSet.shape <|
      .optional "kind" .text .done)
    ⟨fun (items, kind, ()) => ⟨items, kind⟩,
      fun r => (r.items, r.kind, ()), fun _ => rfl, fun _ => rfl⟩

/-- A build. Times are in milliseconds, the start counted from 1970. -/
structure Build where
  className : Option String
  artifacts : List Artifact
  actions : List Action
  building : Bool
  description : Option String
  displayName : Option String
  duration : Int64
  estimatedDuration : Int64
  fullDisplayName : Option String
  id : Option String
  keepLog : Bool
  number : Int64
  queueId : Int64
  result : Option String
  timestamp : Int64
  url : Option String
  changeSets : List ChangeSetList
  builtOn : Option String
  culprits : List Culprit

namespace Build

/-- How a build is written; only its number is never left out. -/
def shape : Shape Build :=
  .record "BuildInfo"
    (.optional "_class" .text <|
      .many "artifacts" Artifact.shape <|
      .many "actions" Action.shape <|
      .withDefault "building" .boolean false <|
      .optional "description" .text <|
      .optional "displayName" .text <|
      .withDefault "duration" .int64 0 <|
      .withDefault "estimatedDuration" .int64 0 <|
      .optional "fullDisplayName" .text <|
      .optional "id" .text <|
      .withDefault "keepLog" .boolean false <|
      .required "number" .int64 <|
      .withDefault "queueId" .int64 0 <|
      .optional "result" .text <|
      .withDefault "timestamp" .int64 0 <|
      .optional "url" .text <|
      .many "changeSets" ChangeSetList.shape <|
      .optional "builtOn" .text <|
      .many "culprits" Culprit.shape .done)
    ⟨fun (className, artifacts, actions, building, description, displayName, duration,
          estimatedDuration, fullDisplayName, id, keepLog, number, queueId, result, timestamp,
          url, changeSets, builtOn, culprits, ()) =>
        ⟨className, artifacts, actions, building, description, displayName, duration,
          estimatedDuration, fullDisplayName, id, keepLog, number, queueId, result, timestamp,
          url, changeSets, builtOn, culprits⟩,
      fun r => (r.className, r.artifacts, r.actions, r.building, r.description, r.displayName,
        r.duration, r.estimatedDuration, r.fullDisplayName, r.id, r.keepLog, r.number,
        r.queueId, r.result, r.timestamp, r.url, r.changeSets, r.builtOn, r.culprits, ()),
      fun _ => rfl, fun _ => rfl⟩

/-- Whether a time belongs to a date of the calendar that dates are held in. -/
def isCalendarTime (ms : Int) : Bool :=
  -8334601228800000 ≤ ms && ms ≤ 8210266876799999

/-- A time, if it belongs to a date. -/
def calendarTime? (ms : Int) : Option Int := if isCalendarTime ms then some ms else none

/-- When the build was started. -/
def startedAt? (b : Build) : Option Int := calendarTime? b.timestamp.toInt

/-- When the build was finished; nothing while it runs or when its duration is not known. -/
def finishedAt? (b : Build) : Option Int :=
  if b.building || b.duration ≤ 0 then none
  else calendarTime? (b.timestamp.toInt + b.duration.toInt)

/-- The parameters of all actions. -/
def parameters (b : Build) : List Parameter := b.actions.flatMap Action.parameters

/-- The first cause of any action. -/
def cause? (b : Build) : Option Cause := (b.actions.flatMap Action.causes).head?

end Build

/-- A part of the console output, with the offset at which to go on. -/
structure ConsoleText where
  text : String
  size : Int64
  hasMoreData : Bool
  deriving DecidableEq

/-- How a part of the console output is written; nothing of it is left out. -/
def ConsoleText.shape : Shape ConsoleText :=
  .record "ProgressiveText"
    (.required "text" .text <|
      .required "size" .int64 <|
      .required "has_more_data" .boolean .done)
    ⟨fun (text, size, hasMoreData, ()) => ⟨text, size, hasMoreData⟩,
      fun r => (r.text, r.size, r.hasMoreData, ()), fun _ => rfl, fun _ => rfl⟩

end CiClient.Record
