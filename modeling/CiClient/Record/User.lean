import CiClient.Json.Shape

/-!
# Users

The user that a client acts for, and the tokens that the server grants to that user.
-/

set_option autoImplicit false

namespace CiClient.Record

open Json (Shape Fields)

/-- A user of the server. -/
structure User where
  absoluteUrl : Option String
  description : Option String
  fullName : Option String
  id : String
  property : List Datum

/-- How a user is written; only the identity is never left out. -/
def User.shape : Shape User :=
  .record "User"
    (.optional "absoluteUrl" .text <|
      .optional "description" .text <|
      .optional "fullName" .text <|
      .required "id" .text <|
      .many "property" .datum .done)
    ⟨fun (absoluteUrl, description, fullName, id, property, ()) =>
        ⟨absoluteUrl, description, fullName, id, property⟩,
      fun r => (r.absoluteUrl, r.description, r.fullName, r.id, r.property, ()),
      fun _ => rfl, fun _ => rfl⟩

/-- A token with its name. -/
structure Token where
  name : String
  uuid : String
  value : String

/-- How a token is written; nothing of it is left out. -/
def Token.shape : Shape Token :=
  .record "ApiTokenData"
    (.required "tokenName" .text <|
      .required "tokenUuid" .text <|
      .required "tokenValue" .text .done)
    ⟨fun (name, uuid, value, ()) => ⟨name, uuid, value⟩,
      fun r => (r.name, r.uuid, r.value, ()), fun _ => rfl, fun _ => rfl⟩

/-- The answer to a request for a token. -/
structure TokenGrant where
  status : String
  token : Option Token

namespace TokenGrant

/-- How the answer to a request for a token is written. -/
def shape : Shape TokenGrant :=
  .record "ApiToken"
    (.required "status" .text <|
      .optional "data" Token.shape .done)
    ⟨fun (status, token, ()) => ⟨status, token⟩,
      fun r => (r.status, r.token, ()), fun _ => rfl, fun _ => rfl⟩

/-- Whether the server granted the token. -/
def isOk (g : TokenGrant) : Bool := g.status == "ok"

end TokenGrant
end CiClient.Record
