import CiClient.Json.Shape

/-!
# The queue

A request for a build waits in the queue as an item. Once it has left the queue, the item tells the
build that runs.
-/

set_option autoImplicit false

namespace CiClient.Record

open Json (Shape Fields)

/-- What an item of the queue is to run; members of other names are kept as they are. -/
structure Task where
  className : Option String
  name : Option String
  url : Option String
  color : Option String
  extra : Dictionary

/-- How a task is written; members of other names are read and written as well. -/
def Task.shape : Shape Task :=
  .openRecord "Task"
    (.optional "_class" .text <|
      .optional "name" .text <|
      .optional "url" .text <|
      .optional "color" .text .done)
    ⟨fun ((className, name, url, color, ()), extra) => ⟨className, name, url, color, extra⟩,
      fun r => ((r.className, r.name, r.url, r.color, ()), r.extra),
      fun _ => rfl, fun _ => rfl⟩

/-- The build that an item has become. -/
structure Executable where
  className : Option String
  number : Int64
  url : Option String

/-- How the build of an item is written; its number is never left out. -/
def Executable.shape : Shape Executable :=
  .record "Executable"
    (.optional "_class" .text <|
      .required "number" .int64 <|
      .optional "url" .text .done)
    ⟨fun (className, number, url, ()) => ⟨className, number, url⟩,
      fun r => (r.className, r.number, r.url, ()), fun _ => rfl, fun _ => rfl⟩

/-- A build request that waits in the queue or has just left it. -/
structure QueueItem where
  className : Option String
  id : Int64
  blocked : Bool
  buildable : Bool
  cancelled : Bool
  stuck : Bool
  inQueueSince : Int64
  params : Option String
  url : Option String
  why : Option String
  task : Option Task
  executable : Option Executable
  actions : List Datum

namespace QueueItem

/-- How an item of the queue is written; only its number is never left out. -/
def shape : Shape QueueItem :=
  .record "QueueItem"
    (.optional "_class" .text <|
      .required "id" .int64 <|
      .withDefault "blocked" .boolean false <|
      .withDefault "buildable" .boolean false <|
      .withDefault "cancelled" .boolean false <|
      .withDefault "stuck" .boolean false <|
      .withDefault "inQueueSince" .int64 0 <|
      .optional "params" .text <|
      .optional "url" .text <|
      .optional "why" .text <|
      .optional "task" Task.shape <|
      .optional "executable" Executable.shape <|
      .many "actions" .datum .done)
    ⟨fun (className, id, blocked, buildable, cancelled, stuck, inQueueSince, params, url, why,
          task, executable, actions, ()) =>
        ⟨className, id, blocked, buildable, cancelled, stuck, inQueueSince, params, url, why,
          task, executable, actions⟩,
      fun r => (r.className, r.id, r.blocked, r.buildable, r.cancelled, r.stuck,
        r.inQueueSince, r.params, r.url, r.why, r.task, r.executable, r.actions, ()),
      fun _ => rfl, fun _ => rfl⟩

/-- The number of the build that the item has become. -/
def buildNumber? (i : QueueItem) : Option Int64 := i.executable.map Executable.number

end QueueItem

/-- All items of the queue. -/
structure Queue where
  items : List QueueItem

/-- How the queue is written. -/
def Queue.shape : Shape Queue :=
  .record "QueueResponse"
    (.many "items" QueueItem.shape .done)
    ⟨fun (items, ()) => ⟨items⟩, fun r => (r.items, ()), fun _ => rfl, fun _ => rfl⟩

end CiClient.Record
