import CiClient.Retry
import CiClient.Settings.Basic

/-!
# Clients

A client knows where its server is, how to authenticate there, and how often to try a read. A
`Setup` lists what may be said about a new client; a credential that is given as such wins over a
token, and a token over a login.
-/

set_option autoImplicit false

namespace CiClient

/-- A client of a server. -/
structure Client where
  endpoint : String
  credential : Credential
  policy : RetryPolicy
  deriving DecidableEq

namespace Client

/-- An endpoint without the white space around it and without slashes at its end. -/
def trimEndpoint (endpoint : String) : String :=
  String.ofList (Text.dropEndWhile (· == '/') (Text.trimChars endpoint.toList))

/-- Whether an address begins like one of the web. -/
def isWebAddress (address : String) : Bool :=
  "http://".toList.isPrefixOf address.toList || "https://".toList.isPrefixOf address.toList

/-- The endpoint of a client. -/
def normalEndpoint (endpoint : String) : Except ClientError String :=
  let trimmed := trimEndpoint endpoint
  if isWebAddress trimmed then .ok trimmed
  else .error (.misconfigured ("Endpoint must be an http(s) URL: " ++ trimmed))

/-- What may be said about a new client. -/
structure Setup where
  endpoint : Option String
  credentials : Option String
  apiToken : Option String
  credential : Option Credential
  policy : RetryPolicy
  deriving DecidableEq

namespace Setup

/-- Nothing is said. -/
def standard : Setup := ⟨none, none, none, none, .standard⟩

/-- The credential of the new client. -/
def chosenCredential (s : Setup) : Except ClientError Credential :=
  match s.credential with
  | some credential => .ok credential
  | none => Settings.credentialOf s.apiToken s.credentials

/-- The client that is described. The endpoint is looked at before the credential. -/
def build (s : Setup) : Except ClientError Client := do
  let endpoint ← normalEndpoint (s.endpoint.getD Settings.defaultEndpoint)
  let credential ← s.chosenCredential
  .ok ⟨endpoint, credential, s.policy⟩

end Setup

/-- The client that settings describe. The credential is looked at before the endpoint. -/
def ofSettings (s : Settings) : Except ClientError Client := do
  let credential ← s.credential
  { Setup.standard with endpoint := some s.endpoint, credential := some credential }.build

/-- The address of a path on the server. -/
def address (c : Client) (path : String) : String := c.endpoint ++ path

end Client
end CiClient
