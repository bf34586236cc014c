import CiClient.Http.Status
import CiClient.Text.Blank
import CiClient.Text.Split

/-!
# Recorded failures

A failure that a caller can expect is a value: what went wrong, in which class, and in which
context. `ofStatus` makes one from a response that was not accepted. The body goes into the message
unless it is blank or a page of markup, cut at three hundred bytes without splitting a character.
-/

set_option autoImplicit false

namespace CiClient

/-- The classes of failures. -/
inductive FailureKind where
  | notFound
  | unauthorized
  | forbidden
  | conflict
  | server
  | transport
  | numberFormat
  | parse
  | other
  deriving DecidableEq

namespace FailureKind

/-- All classes with their written names, in the order in which messages list them. -/
def names : List (String × FailureKind) :=
  [("not_found", notFound), ("unauthorized", unauthorized), ("forbidden", forbidden),
    ("conflict", conflict), ("server", server), ("transport", transport),
    ("number_format", numberFormat), ("parse", parse), ("other", other)]

/-- The written name of a class. -/
def name : FailureKind → String
  | notFound => "not_found"
  | unauthorized => "unauthorized"
  | forbidden => "forbidden"
  | conflict => "conflict"
  | server => "server"
  | transport => "transport"
  | numberFormat => "number_format"
  | parse => "parse"
  | other => "other"

/-- The class of a status. -/
def ofStatus (status : Http.Status) : FailureKind :=
  match status.code with
  | 404 => notFound
  | 401 => unauthorized
  | 403 => forbidden
  | 409 => conflict
  | _ => if status.isServerError then server else other

end FailureKind

/-- A failure with its message and class, and with the context it arose in, if any. -/
structure Failure where
  context : Option String
  message : String
  kind : FailureKind
  deriving DecidableEq

namespace Text

/-- The longest prefix of a text that has at most `limit` bytes. -/
def takeBytes : Nat → List Char → List Char
  | _, [] => []
  | limit, c :: cs =>
    if c.utf8Size ≤ limit then c :: takeBytes (limit - c.utf8Size) cs else []

/-- The number of bytes of a text. -/
def byteCount : List Char → Nat
  | [] => 0
  | c :: cs => c.utf8Size + byteCount cs

end Text

namespace Failure

/-- A failure without context. -/
def of (kind : FailureKind) (message : String) : Failure := ⟨none, message, kind⟩

/-- A request that got no response. -/
def transport (message : String) : Failure := of .transport message

/-- Attach a context. -/
def within (failure : Failure) (context : String) : Failure :=
  { failure with context := some context }

/-- How many bytes of a body a message shows. -/
def bodyLimit : Nat := 300

/-- A body that is a page for people and not a message. -/
def isMarkup (body : List Char) : Bool :=
  Text.occursIn "<html".toList body || Text.occursIn "<!DOCTYPE".toList body

/-- What a message shows of a trimmed body. -/
def excerpt (body : List Char) : List Char :=
  if bodyLimit < Text.byteCount body then Text.takeBytes bodyLimit body ++ ['.', '.', '.']
  else body

/-- The message for a status and a body. -/
def statusMessage (status : Http.Status) (body : String) : String :=
  let shown := Text.trimChars body.toList
  if shown.isEmpty || isMarkup shown then "HTTP " ++ status.display
  else "HTTP " ++ status.display ++ ": " ++ String.ofList (excerpt shown)

/-- The failure that a response with this status and body reports. -/
def ofStatus (status : Http.Status) (body : String) : Failure :=
  of (.ofStatus status) (statusMessage status body)

/-- Whether the server did not find what was asked for. -/
def isNotFound (failure : Failure) : Bool := failure.kind = .notFound

end Failure
end CiClient
