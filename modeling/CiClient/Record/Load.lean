import CiClient.Json.Shape

/-!
# Load of the server

Series of measurements of the executors and of the queue. A series maps the name of a time scale to
its measurements, which are kept as they are.
-/

set_option autoImplicit false

namespace CiClient.Record

open Json (Shape Fields)

/-- The load of the server. -/
structure Load where
  availableExecutors : Dictionary
  busyExecutors : Dictionary
  connectingExecutors : Dictionary
  definedExecutors : Dictionary
  idleExecutors : Dictionary
  onlineExecutors : Dictionary
  queueLength : Dictionary
  totalExecutors : Dictionary
  totalQueueLength : Dictionary

namespace Load

/-- A series, which may be null or left out when it is empty. -/
def series {β : Type} (name : String) (rest : Fields β) : Fields (Dictionary × β) :=
  .withDefault name (.nullAs .empty .dictionary) .empty rest

/-- How the load of the server is written, one series after the other. -/
def shape : Shape Load :=
  .record "OverallLoad"
    (series "availableExecutors" <|
      series "busyExecutors" <|
      series "connectingExecutors" <|
      series "definedExecutors" <|
      series "idleExecutors" <|
      series "onlineExecutors" <|
      series "queueLength" <|
      series "totalExecutors" <|
      series "totalQueueLength" .done)
    ⟨fun (available, busy, connecting, defined, idle, online, queue, total, totalQueue, ()) =>
        ⟨available, busy, connecting, defined, idle, online, queue, total, totalQueue⟩,
      fun r => (r.availableExecutors, r.busyExecutors, r.connectingExecutors,
        r.definedExecutors, r.idleExecutors, r.onlineExecutors, r.queueLength,
        r.totalExecutors, r.totalQueueLength, ()),
      fun _ => rfl, fun _ => rfl⟩

end Load
end CiClient.Record
