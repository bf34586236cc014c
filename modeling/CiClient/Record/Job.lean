import CiClient.Record.Build
import CiClient.Text.Split

/-!
# Jobs

The entries of a job listing, and what the server tells about one job.
-/

set_option autoImplicit false

namespace CiClient.Record

open Json (Shape Fields)

/-- An entry of a job listing. -/
structure Job where
  className : Option String
  name : String
  url : Option String
  color : Option String

namespace Job

/-- How an entry of a job listing is written; its name is never left out. -/
def shape : Shape Job :=
  .record "Job"
    (.optional "_class" .text <|
      .required "name" .text <|
      .optional "url" .text <|
      .optional "color" .text .done)
    ⟨fun (className, name, url, color, ()) => ⟨className, name, url, color⟩,
      fun r => (r.className, r.name, r.url, r.color, ()), fun _ => rfl, fun _ => rfl⟩

/-- Folders and projects with several branches hold further jobs. -/
def isFolder (j : Job) : Bool :=
  match j.className with
  | some className =>
    Text.occursIn "Folder".toList className.toList ||
      Text.occursIn "MultiBranchProject".toList className.toList
  | none => false

end Job

/-- The jobs of a folder. -/
structure JobList where
  className : Option String
  jobs : List Job
  url : Option String

namespace JobList

/-- How a job listing is written. -/
def shape : Shape JobList :=
  .record "JobList"
    (.optional "_class" .text <|
      .many "jobs" Job.shape <|
      .optional "url" .text .done)
    ⟨fun (className, jobs, url, ()) => ⟨className, jobs, url⟩,
      fun r => (r.className, r.jobs, r.url, ()), fun _ => rfl, fun _ => rfl⟩

/-- The folders among the jobs. -/
def folders (l : JobList) : List Job := l.jobs.filter Job.isFolder

end JobList

/-- A job with its builds. -/
structure JobInfo where
  className : Option String
  description : Option String
  displayName : Option String
  displayNameOrNull : Option String
  name : String
  url : Option String
  buildable : Bool
  builds : List BuildRef
  color : Option String
  firstBuild : Option BuildRef
  inQueue : Bool
  keepDependencies : Bool
  lastBuild : Option BuildRef
  lastCompletedBuild : Option BuildRef
  lastFailedBuild : Option BuildRef
  lastStableBuild : Option BuildRef
  lastSuccessfulBuild : Option BuildRef
  lastUnstableBuild : Option BuildRef
  lastUnsuccessfulBuild : Option BuildRef
  nextBuildNumber : Int64
  queueItem : Option Datum
  concurrentBuild : Bool

/-- How a job is written; only its name is never left out. -/
def JobInfo.shape : Shape JobInfo :=
  .record "JobInfo"
    (.optional "_class" .text <|
      .optional "description" .text <|
      .optional "displayName" .text <|
      .optional "displayNameOrNull" .text <|
      .required "name" .text <|
      .optional "url" .text <|
      .withDefault "buildable" .boolean false <|
      .many "builds" BuildRef.shape <|
      .optional "color" .text <|
      .optional "firstBuild" BuildRef.shape <|
      .withDefault "inQueue" .boolean false <|
      .withDefault "keepDependencies" .boolean false <|
      .optional "lastBuild" BuildRef.shape <|
      .optional "lastCompletedBuild" BuildRef.shape <|
      .optional "lastFailedBuild" BuildRef.shape <|
      .optional "lastStableBuild" BuildRef.shape <|
      .optional "lastSuccessfulBuild" BuildRef.shape <|
      .optional "lastUnstableBuild" BuildRef.shape <|
      .optional "lastUnsuccessfulBuild" BuildRef.shape <|
      .withDefault "nextBuildNumber" .int64 0 <|
      .optional "queueItem" .datum <|
      .withDefault "concurrentBuild" .boolean false .done)
    ⟨fun (className, description, displayName, displayNameOrNull, name, url, buildable, builds,
          color, firstBuild, inQueue, keepDependencies, lastBuild, lastCompletedBuild,
          lastFailedBuild, lastStableBuild, lastSuccessfulBuild, lastUnstableBuild,
          lastUnsuccessfulBuild, nextBuildNumber, queueItem, concurrentBuild, ()) =>
        ⟨className, description, displayName, displayNameOrNull, name, url, buildable, builds,
          color, firstBuild, inQueue, keepDependencies, lastBuild, lastCompletedBuild,
          lastFailedBuild, lastStableBuild, lastSuccessfulBuild, lastUnstableBuild,
          lastUnsuccessfulBuild, nextBuildNumber, queueItem, concurrentBuild⟩,
      fun r => (r.className, r.description, r.displayName, r.displayNameOrNull, r.name, r.url,
        r.buildable, r.builds, r.color, r.firstBuild, r.inQueue, r.keepDependencies,
        r.lastBuild, r.lastCompletedBuild, r.lastFailedBuild, r.lastStableBuild,
        r.lastSuccessfulBuild, r.lastUnstableBuild, r.lastUnsuccessfulBuild,
        r.nextBuildNumber, r.queueItem, r.concurrentBuild, ()),
      fun _ => rfl, fun _ => rfl⟩

end CiClient.Record
