/-!
# Errors of a client

What stops an operation. Each constructor is a cause; `message` gives the wording.
-/

set_option autoImplicit false

namespace CiClient

/-- Why an operation has no result. -/
inductive ClientError where
  /-- No identity can be read off the given credentials. -/
  | unidentified (credentials : String)
  /-- The crumb that a write needs could not be had. -/
  | crumbUnresolved (reason : String)
  /-- The server refused the credentials. -/
  | unauthenticated (reason : String)
  /-- A setting, an address or a header value is unusable. -/
  | misconfigured (reason : String)
  /-- The configuration could not be loaded. -/
  | unloadable (reason : String)
  /-- No response arrived. -/
  | network (reason : String)
  /-- The server answered with a failure. -/
  | api (reason : String)
  /-- A response could not be read as what it should be. -/
  | serialization (reason : String)
  deriving DecidableEq

namespace ClientError

/-- The wording of an error. -/
def message : ClientError → String
  | unidentified credentials =>
    "Unable to detect identity information from credentials: " ++ credentials
  | crumbUnresolved reason => "Unable to resolve Jenkins crumb: " ++ reason
  | unauthenticated reason => "Authentication failed: " ++ reason
  | misconfigured reason => "Invalid configuration: " ++ reason
  | unloadable reason => "Failed to load configuration: " ++ reason
  | network reason => "Network error: " ++ reason
  | api reason => "API error: " ++ reason
  | serialization reason => "Serialization error: " ++ reason

/-- Only an error of the network may pass when the operation is tried again. -/
def isTransient : ClientError → Bool
  | network _ => true
  | _ => false

end ClientError
end CiClient
