import CiClient.Credential
import CiClient.Json.Shape
import CiClient.Settings.Reference
import CiClient.Text.Blank

/-!
# Settings of a client

Where the server is and how to authenticate there. `ofEnvironment` takes the settings from three
variables. A blank login counts as none. A token wins over a login with a password; with neither the
client is anonymous.
-/

set_option autoImplicit false

namespace CiClient

/-- Settings of a client; the timeout is in seconds. -/
structure Settings where
  endpoint : String
  credentials : Option String
  apiToken : Option String
  timeout : UInt64
  deriving DecidableEq

namespace Settings

/-- The address of a server that runs on the same machine. -/
def defaultEndpoint : String := "http://127.0.0.1:8080"

/-- How many seconds a request may take where nothing is said. -/
def defaultTimeout : UInt64 := 30

/-- The settings where nothing is said. -/
def standard : Settings := ⟨defaultEndpoint, none, none, defaultTimeout⟩

/-- How settings are written in JSON. -/
def shape : Json.Shape Settings :=
  .record "JenkinsConfig"
    (.withDefault "endpoint" .text defaultEndpoint <|
      .optional "credentials" .text <|
      .optional "api_token" .text <|
      .withDefault "timeout_secs" .nat64 defaultTimeout .done)
    ⟨fun (endpoint, credentials, apiToken, timeout, ()) =>
        ⟨endpoint, credentials, apiToken, timeout⟩,
      fun r => (r.endpoint, r.credentials, r.apiToken, r.timeout, ()),
      fun _ => rfl, fun _ => rfl⟩

/-- The variable that holds the endpoint. -/
def endpointVariable : String := "JENKINS_REST_ENDPOINT"

/-- The variable that holds a login with a password. -/
def credentialsVariable : String := "JENKINS_REST_CREDENTIALS"

/-- The variable that holds a login with a token. -/
def apiTokenVariable : String := "JENKINS_REST_API_TOKEN"

/-- The settings that the environment gives; blank values count as not set. -/
def ofEnvironment (env : Environment) : Settings where
  endpoint := ((env endpointVariable).bind Text.nonBlank?).getD defaultEndpoint
  credentials := (env credentialsVariable).bind Text.nonBlank?
  apiToken := (env apiTokenVariable).bind Text.nonBlank?
  timeout := defaultTimeout

/-- The credential that a token or a login gives; the token wins. -/
def credentialOf (apiToken credentials : Option String) : Except ClientError Credential :=
  match apiToken, credentials with
  | some token, _ => Credential.ofSetting (some token) .apiToken
  | none, some login => Credential.ofSetting (some login) .password
  | none, none => Credential.ofSetting none .anonymous

/-- The credential that settings give. -/
def credential (s : Settings) : Except ClientError Credential :=
  credentialOf s.apiToken s.credentials

/-- A login as descriptions show it. -/
def redacted : Option String → String
  | some _ => "Some(\"[REDACTED]\")"
  | none => "None"

/-- A description that hides the logins. -/
def describe (s : Settings) : String :=
  "JenkinsConfig \x7b endpoint: " ++ Text.quoted s.endpoint ++
    ", credentials: " ++ redacted s.credentials ++
    ", api_token: " ++ redacted s.apiToken ++
    ", timeout_secs: " ++ Nat.repr s.timeout.toNat ++ " \x7d"

end Settings
end CiClient
