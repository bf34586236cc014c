import CiClient.Bytes.Base64
import CiClient.Bytes.Utf8
import CiClient.ClientError
import CiClient.Http.Headers
import CiClient.Http.Status
import CiClient.Uri.Url

/-!
# Requests and responses

A request goes to an address. A name and a password in the address are not sent as part of it: they
become the authorization field. A response consists of a status, header fields and a content, which
is missing when the transfer broke off.
-/

set_option autoImplicit false

namespace CiClient.Http

/-- What a request asks for. -/
inductive Method where
  | get
  | head
  | post
  deriving DecidableEq

/-- The name of a method. -/
def Method.name : Method → String
  | get => "GET"
  | head => "HEAD"
  | post => "POST"

/-- A request. -/
structure Request where
  method : Method
  url : Uri.Url
  headers : Headers
  body : String
  deriving DecidableEq

namespace Request

/-- The text that a percent-encoded part of an address stands for. -/
def decodePart? (part : String) : Option String :=
  Bytes.ofUtf8? (Bytes.Percent.decode part.toList)

/-- The name and the password in an address, if it has any and the name is readable. -/
def userInfo? (url : Uri.Url) : Option (String × String) :=
  match decodePart? url.username with
  | none => none
  | some username =>
    match url.password.bind decodePart? with
    | some password => some (username, password)
    | none => if username = "" then none else some (username, "")

/-- The authorization that a name and a password give. -/
def basic (username password : String) : String :=
  "Basic " ++ String.ofList (Bytes.Base64.encode (Bytes.utf8 (username ++ ":" ++ password)))

/-- A request without a body to an address. -/
def ofUrl (method : Method) (url : Uri.Url) : Request :=
  match userInfo? url with
  | none => ⟨method, url, .empty, ""⟩
  | some (username, password) =>
    ⟨method, url.withoutUserInfo, .ofList [("authorization", basic username password)], ""⟩

/-- A request without a body to an address in one text. -/
def build (method : Method) (address : String) : Except ClientError Request :=
  match Uri.Url.parse? address with
  | some url => .ok (ofUrl method url)
  | none => .error (.misconfigured "builder error")

/-- What is reported of an address that no request can be made to. -/
def unsendable (url : Uri.Url) : String := "builder error for url (" ++ url.toText ++ ")"

/-- Give a request a body of a kind. -/
def withBody (r : Request) (contentType body : String) : Request :=
  { r with headers := r.headers.insert "content-type" contentType, body := body }

/-- Set a header field. -/
def withHeader (r : Request) (name value : String) : Request :=
  { r with headers := r.headers.insert name value }

/-- How a client names itself. -/
def agent : String := "jenkins-rest/0.1.0"

/-- A request as it is sent: with the name of the client. -/
def signed (r : Request) : Request := r.withHeader "user-agent" agent

end Request

/-- What a server answers. -/
structure Reply where
  status : Status
  headers : Headers
  /-- The content, or nothing when the transfer broke off. -/
  content : Option (List UInt8)
  deriving DecidableEq

namespace Reply

/-- An answer with a status only. -/
def bare (status : Status) : Reply := ⟨status, .empty, some []⟩

/-- White space around the value of a field. -/
def isPadding (c : Char) : Bool := c == ' ' || c == '\t'

/-- The value of a field without the white space around it. -/
def stripped (value : String) : String :=
  String.ofList (Text.dropEndWhile isPadding (value.toList.dropWhile isPadding))

/-- A reply as it arrives: the values of its fields are stripped, and where none is due it has no
content. -/
def arrived (method : Method) (r : Reply) : Reply where
  status := r.status
  headers := ⟨r.headers.fields.map fun (name, value) => (name, stripped value)⟩
  content := if method = .head || r.status.isBodiless then some [] else r.content

end Reply

/-- A reply together with the address it came from. -/
structure Response extends Reply where
  url : Uri.Url
  deriving DecidableEq

namespace Response

/-- What is reported of a request that got no response. -/
def unsent (url : Uri.Url) : String := "error sending request for url (" ++ url.toText ++ ")"

/-- What is reported of a content that broke off. -/
def unreadable (url : Uri.Url) : String :=
  "error decoding response body for url (" ++ url.toText ++ ")"

/-- The content as text; bytes that are no text are replaced. -/
def text? (r : Response) : Option String := r.content.map Bytes.ofUtf8Lossy

/-- The content as text, or the error that it broke off. -/
def text (r : Response) : Except ClientError String :=
  match r.text? with
  | some text => .ok text
  | none => .error (.serialization (unreadable r.url))

/-- The content as text, empty when it broke off. -/
def textOrEmpty (r : Response) : String := r.text?.getD ""

end Response
end CiClient.Http
