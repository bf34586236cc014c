import CiClient.Bytes.Form
import CiClient.Client.Basic
import CiClient.Crumb.Issued
import CiClient.Filter
import CiClient.Http.Dialogue

/-!
# Reads and writes

The dialogues that a client holds with its server. A read is tried again when no reply arrives. A
write is sent once; before the first one the crumb is fetched, once, and whatever comes of that
holds for all writes of the client. An address that cannot be read ends a read or a write before
anything is sent, and no request is made to one that cannot be sent.
-/

set_option autoImplicit false

namespace CiClient.Client

open Http (Dialogue Method Request Reply Response)

/-- Send a request and end with the response. -/
def exchange (request : Request) : Dialogue (Except ClientError Response) :=
  if request.url.isSendable then do
    match ← Dialogue.exchange request with
    | some reply => return .ok { reply with url := request.url }
    | none => return .error (.network (Response.unsent request.url))
  else .done (.error (.misconfigured (Request.unsendable request.url)))

/-- Try a read once. -/
def readOnce (c : Client) (method : Method) (path : String) :
    Dialogue (Except ClientError Response) :=
  match (Request.build method (c.address path)).bind (Filter.authorize c.credential) with
  | .ok request => exchange request
  | .error e => .done (.error e)

/-- Read under the policy of the client. -/
def read (c : Client) (method : Method) (path : String) :
    Dialogue (Except ClientError Response) :=
  c.policy.retry Dialogue.wait (c.readOnce method path)

/-- What the issuer is asked for: the name of the field and the crumb, a colon between them. -/
def crumbQuery : String := "concat(//crumbRequestField,\":\",//crumb)"

/-- The path of the issuer on the server. -/
def crumbPath : String := "/crumbIssuer/api/xml?xpath=" ++ Bytes.Percent.encode crumbQuery

/-- The crumb of an issuer at an address that no reply came from, for a reason. -/
def unfetched (address reason : String) : Crumb :=
  .failed ((Failure.transport ("Failed to fetch crumb: " ++ reason)).within address)

/-- The crumb that comes of a reply of the issuer, or of none. -/
def crumbOf (address : String) (url : Uri.Url) : Option Reply → Crumb
  | none => unfetched address (Response.unsent url)
  | some reply =>
    let response : Response := { reply with url := url }
    match response.text? with
    | some body => .ofResponse response.status response.headers body
    | none =>
      .failed (.transport ("Failed to read crumb response: " ++ Response.unreadable url))

/-- Ask the issuer once; every failure is told in the crumb. -/
def fetchCrumb (c : Client) : Dialogue Crumb :=
  let address := c.address crumbPath
  match Uri.Url.parse? address with
  | none => .done (.failed (.transport "builder error"))
  | some url =>
    match Filter.authorize c.credential (Request.ofUrl .get url) with
    | .error e => .done (.failed (.of .other e.message))
    | .ok request =>
      if request.url.isSendable then do
        let reply ← Dialogue.exchange request
        return crumbOf address request.url reply
      else .done (unfetched address (Request.unsendable request.url))

/-- The decision on crumbs: the one that was made, else one that is made now. -/
def resolve (c : Client) : Option CrumbDecision → Dialogue CrumbDecision
  | some decision => .done decision
  | none => do return .ofCrumb (← c.fetchCrumb)

/-- The body of a write. -/
inductive Body where
  | empty
  | form (pairs : List (String × String))
  | markup (text : String)
  deriving DecidableEq

/-- A request with a body. -/
def Body.attach : Body → Request → Request
  | .empty, r => r
  | .form pairs, r =>
    r.withBody "application/x-www-form-urlencoded" (Bytes.Form.encode pairs)
  | .markup text, r => r.withBody "application/xml; charset=utf-8" text

/-- A write before it is protected by a crumb. -/
def writeRequest (c : Client) (path : String) (body : Body) : Except ClientError Request :=
  (Request.build .post (c.address path)).bind fun request =>
    Filter.authorize c.credential (body.attach request)

/-- Write. Ends with the response and with the decision on crumbs that holds from now on. -/
def write (c : Client) (slot : Option CrumbDecision) (path : String) (body : Body) :
    Dialogue (Except ClientError Response × Option CrumbDecision) :=
  match c.writeRequest path body with
  | .error e => .done (.error e, slot)
  | .ok request => do
    let decision ← c.resolve slot
    match Filter.withCrumb decision request with
    | .error e => return (.error e, some decision)
    | .ok request => return (← exchange request, some decision)

end CiClient.Client
