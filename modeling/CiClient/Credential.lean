import CiClient.Bytes.Base64
import CiClient.Bytes.Utf8
import CiClient.ClientError
import CiClient.Text.Quoted
import CiClient.Text.Split

/-!
# Credentials

A login is a pair `identity:secret`. It may be given as it is or already in base64; either way the
server is sent the pair in base64, once. `detect` tells the two forms apart: base64 has no colon, so
a text with a colon is a pair, and any other text has to be the base64 form of one.
-/

set_option autoImplicit false

namespace CiClient

/-- How a client authenticates. -/
inductive AuthenticationKind where
  | password
  | apiToken
  | anonymous
  deriving DecidableEq

namespace AuthenticationKind

/-- The scheme in front of the encoded pair. -/
def scheme : AuthenticationKind → String
  | password => "Basic"
  | apiToken => "Basic"
  | anonymous => ""

/-- The name of a kind in descriptions. -/
def name : AuthenticationKind → String
  | password => "UsernamePassword"
  | apiToken => "ApiToken"
  | anonymous => "Anonymous"

end AuthenticationKind

/-- The identity of a login and its pair in base64. -/
structure Login where
  identity : String
  encoded : String
  deriving DecidableEq

namespace Login

/-- The part of a pair before its first colon. -/
def identityOf? (pair : String) : Option String :=
  (Text.splitOnce ':' pair.toList).map fun (identity, _) => String.ofList identity

/-- A pair in base64. -/
def encode (pair : String) : String := String.ofList (Bytes.Base64.encode (Bytes.utf8 pair))

/-- The text that a base64 form denotes. -/
def decode? (encoded : String) : Option String :=
  (Bytes.Base64.decode encoded.toList).bind Bytes.ofUtf8?

/-- The login that a text gives, as a pair or in base64. -/
def detect (raw : String) : Except ClientError Login :=
  match identityOf? raw with
  | some identity => .ok ⟨identity, encode raw⟩
  | none =>
    match (decode? raw).bind identityOf? with
    | some identity => .ok ⟨identity, raw⟩
    | none => .error (.unidentified raw)

/-- The login of a client without credentials. -/
def anonymous : Login := ⟨"anonymous", encode "anonymous:"⟩

end Login

/-- A login with the kind of authentication it serves. -/
structure Credential where
  kind : AuthenticationKind
  login : Login
  deriving DecidableEq

namespace Credential

/-- The credential of a login with a password, as a pair or in base64. -/
def ofPassword (raw : String) : Except ClientError Credential :=
  (Login.detect raw).map fun login => ⟨.password, login⟩

/-- The credential of a login with a token, as a pair or in base64. -/
def ofApiToken (raw : String) : Except ClientError Credential :=
  (Login.detect raw).map fun login => ⟨.apiToken, login⟩

/-- The credential of a client that gives none. -/
def anonymous : Credential := ⟨.anonymous, .anonymous⟩

/-- The credential of a kind; without a text it is anonymous. -/
def ofSetting (raw? : Option String) (kind : AuthenticationKind) :
    Except ClientError Credential :=
  match raw?, kind with
  | none, _ => .ok anonymous
  | some _, .anonymous => .ok anonymous
  | some raw, .password => ofPassword raw
  | some raw, .apiToken => ofApiToken raw

/-- Whether a credential is that of a client that gives none. -/
def isAnonymous (c : Credential) : Bool := c.kind = .anonymous

/-- The name that a credential acts for. -/
def identity (c : Credential) : String := c.login.identity

/-- The pair of a credential in base64. -/
def encoded (c : Credential) : String := c.login.encoded

/-- The value of the authorization field; a client without credentials sends none. -/
def authorization? (c : Credential) : Option String :=
  if c.isAnonymous then none else some (c.kind.scheme ++ " " ++ c.encoded)

/-- A description that shows the identity and hides the pair. -/
def describe (c : Credential) : String :=
  c.kind.name ++ "(EncodedIdentity \x7b identity: " ++ Text.quoted c.identity ++
    ", encoded: SecretBox<str>([REDACTED]) \x7d)"

end Credential
end CiClient
