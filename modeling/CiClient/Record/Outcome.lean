import CiClient.Json.Shape
import CiClient.Verdict

/-!
# Written form of outcomes

How failures, verdicts and tickets are written in JSON.
-/

set_option autoImplicit false

namespace CiClient

open Json (Shape Fields)

/-- A kind of failure is written by its name. -/
def FailureKind.shape : Shape FailureKind := .choice FailureKind.names FailureKind.name

/-- How a failure is written; the context may be missing. -/
def Failure.shape : Shape Failure :=
  .record "ApiError"
    (.optional "context" .text <|
      .required "message" .text <|
      .required "kind" FailureKind.shape .done)
    ⟨fun (context, message, kind, ()) => ⟨context, message, kind⟩,
      fun r => (r.context, r.message, r.kind, ()), fun _ => rfl, fun _ => rfl⟩

/-- The failures of an outcome; unlike other lists they are never null. -/
def Failure.listField : Fields (List Failure × Unit) :=
  .withDefault "errors" (.list Failure.shape) [] .done

/-- How a verdict is written. -/
def Verdict.shape : Shape Verdict :=
  .record "RequestStatus"
    (.required "value" .boolean Failure.listField)
    ⟨fun (value, failures, ()) => ⟨value, failures⟩,
      fun r => (r.value, r.failures, ()), fun _ => rfl, fun _ => rfl⟩

/-- How a ticket is written; a missing number is null, and it is never left out. -/
def Ticket.shape : Shape Ticket :=
  .record "IntegerResponse"
    (.nullable "value" .int64 Failure.listField)
    ⟨fun (value, failures, ()) => ⟨value, failures⟩,
      fun r => (r.value, r.failures, ()), fun _ => rfl, fun _ => rfl⟩

end CiClient
