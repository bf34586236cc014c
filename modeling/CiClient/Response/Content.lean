import CiClient.Http.Message
import CiClient.Json.Shape
import CiClient.Verdict

/-!
# What responses say

A read that finds nothing is no error: it has no result. A read that is refused is an error. A write
ends with a verdict, also when the server refuses it or cannot be reached.
-/

set_option autoImplicit false

namespace CiClient.Http.Response

/-- The error of a read that was refused: one of authentication or one of the server. -/
def statusError (status : Status) (body : String) : ClientError :=
  let failure := Failure.ofStatus status body
  match failure.kind with
  | .unauthorized => .unauthenticated failure.message
  | .forbidden => .unauthenticated failure.message
  | _ => .api failure.message

/-- The text of a resource; nothing when it was not found. -/
def found (r : Response) : Except ClientError (Option String) :=
  if r.status = .notFound then .ok none
  else r.text.bind fun body =>
    if r.status.isAccepted then .ok (some body) else .error (statusError r.status body)

/-- The error of a text that is not what it should be. -/
def faultError (fault : Fault) : ClientError := .serialization fault.message

/-- Read a record from a text. -/
def decode {α : Type} (shape : Json.Shape α) (body : String) : Except ClientError α :=
  (shape.decodeText body).mapError faultError

/-- The record that a resource holds; nothing when it was not found. -/
def foundRecord {α : Type} (shape : Json.Shape α) (r : Response) :
    Except ClientError (Option α) :=
  r.found.bind fun
    | some body => (decode shape body).map some
    | none => .ok none

/-- Whether a write was carried out, as a verdict. -/
def verdict (r : Response) : Verdict :=
  if r.status.isAccepted then .accepted else .refused (.ofStatus r.status r.textOrEmpty)

/-- Whether a write was carried out. -/
def succeeded (r : Response) : Bool := r.status.isAccepted

end CiClient.Http.Response
