import CiClient.Crumb.Basic
import CiClient.Http.Headers

/-!
# Issued crumbs

The issuer answers with the name of a field and the crumb, a colon between them. The session is the
first cookie that is named like one, without its attributes.
-/

set_option autoImplicit false

namespace CiClient.Crumb

/-- How the name of a session cookie begins. -/
def sessionName : List Char := "JSESSIONID".toList

/-- The trimmed text of a cookie that names a session. -/
def sessionText? (cookie : String) : Option (List Char) :=
  let trimmed := Text.trimChars cookie.toList
  if Http.Headers.isReadable cookie && sessionName.isPrefixOf trimmed then some trimmed else none

/-- The part of a cookie before its attributes. -/
def withoutAttributes (cookie : List Char) : String :=
  String.ofList (Text.trimChars (cookie.takeWhile (· != ';')))

/-- The session that the header fields of a response name. -/
def sessionOf (headers : Http.Headers) : Option String :=
  ((headers.getAll "set-cookie").findSome? sessionText?).map withoutAttributes

/-- The crumb in the text of the issuer: what follows the first colon, unless it is blank. -/
def valueOf? (body : String) : Option String :=
  (Text.splitOnce ':' (Text.trimChars body.toList)).bind fun (_, value) =>
    Text.nonBlank? (String.ofList value)

/-- The crumb in the answer of the issuer. -/
def ofResponse (status : Http.Status) (headers : Http.Headers) (body : String) : Crumb :=
  if status.isAccepted then
    match valueOf? body with
    | some value => of value (sessionOf headers)
    | none => failed (.of .parse ("Unexpected crumb issuer response: " ++ Text.trim body))
  else failed (.ofStatus status body)

end CiClient.Crumb
