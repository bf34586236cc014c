import CiClient.Credential
import CiClient.Crumb.Basic
import CiClient.Http.Message

/-!
# Authentication of requests

A request is authenticated by header fields. Reads carry the authorization only. Writes also carry
the crumb and its session. Each field is set to exactly one value, whatever the request held before;
a request of an anonymous client keeps its authorization field as it is.
-/

set_option autoImplicit false

namespace CiClient.Filter

open Http (Request)

/-- The name of the field with the crumb. -/
def crumbField : String := "Jenkins-Crumb"

/-- Set a field to a value that may be sent; `what` names the field in the error. -/
def setField (name what value : String) (r : Request) : Except ClientError Request :=
  if Http.Headers.isLegal value then .ok (r.withHeader name value)
  else .error (.misconfigured ("Invalid " ++ what ++ " header value: failed to parse header value"))

/-- Add the authorization; a client without credentials has none. -/
def authorize (c : Credential) (r : Request) : Except ClientError Request :=
  match c.authorization? with
  | some value => setField "authorization" "authorization" value r
  | none => .ok r

/-- Add the session of a crumb, if it has one. -/
def withSession (session : Option String) (r : Request) : Except ClientError Request :=
  match session with
  | some cookie => setField "cookie" "cookie" cookie r
  | none => .ok r

/-- Why a crumb that is needed is missing. -/
def missingReason (crumb : Crumb) : String :=
  match crumb.failures with
  | failure :: _ => failure.message
  | [] => "crumb issuer returned no value"

/-- Add the crumb with its session. Without a crumb the request stays as it is, unless one is
needed. -/
def withCrumb (d : CrumbDecision) (r : Request) : Except ClientError Request :=
  match d.crumb.value with
  | some value => (setField "jenkins-crumb" crumbField value r).bind (withSession d.crumb.session)
  | none => if d.required then .error (.crumbUnresolved (missingReason d.crumb)) else .ok r

/-- Authenticate a write. -/
def protect (c : Credential) (d : CrumbDecision) (r : Request) : Except ClientError Request :=
  (authorize c r).bind (withCrumb d)

end CiClient.Filter
