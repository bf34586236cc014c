import CiClient.Text.Blank
import CiClient.Uri.Host

/-!
# Addresses

An address of the schemes `http` and `https`, taken apart by the rules that browsers share. White
space around it and line breaks within are dropped, a backslash counts as a slash, the default port
is left out, and characters that an address cannot hold are percent-encoded.

The path is a list of segments. `resolve` builds it from the text between slashes: a segment of one
dot stays where it is and one of two dots goes back by one, also when a dot is written `%2e`.
-/

set_option autoImplicit false

namespace CiClient.Uri

/-- An address with its parts as they are sent. -/
structure Url where
  secure : Bool
  username : String
  password : Option String
  host : Host
  port : Option Nat
  path : List String
  query : Option String
  fragment : Option String
  deriving DecidableEq

namespace Url

/-! ## Characters that stay as they are -/

/-- Visible ASCII characters outside a list. -/
def visibleExcept (excluded : List Char) (c : Char) : Bool :=
  0x21 ≤ c.toNat && c.toNat ≤ 0x7E && !excluded.contains c

/-- The characters that a path keeps as they are. -/
def keptInPath : Char → Bool :=
  visibleExcept ['"', '#', '<', '>', '?', '^', '\x60', '{', '}']

/-- The characters that a query keeps as they are. -/
def keptInQuery : Char → Bool := visibleExcept ['"', '#', '<', '>', '\x27']

/-- The characters that a fragment keeps as they are. -/
def keptInFragment : Char → Bool := visibleExcept ['"', '<', '>', '\x60']

/-- The characters that a name or a password before the host keeps as they are. -/
def keptInUserInfo : Char → Bool :=
  visibleExcept ['"', '#', '<', '>', '?', '^', '\x60', '{', '}', '/', ':', ';', '=', '@', '[',
    '\\', ']', '|']

/-! ## Paths -/

/-- A slash of either kind. -/
def isSlash (c : Char) : Bool := c == '/' || c == '\\'

/-- A dot or its escape at the front of a segment; what is left of it. -/
def dropDot? : List Char → Option (List Char)
  | '.' :: rest => some rest
  | '%' :: '2' :: 'e' :: rest => some rest
  | '%' :: '2' :: 'E' :: rest => some rest
  | _ => none

/-- A segment that stays where it is. -/
def isSingleDot (segment : List Char) : Bool := dropDot? segment == some []

/-- A segment that goes back by one. -/
def isDoubleDot (segment : List Char) : Bool := (dropDot? segment).bind dropDot? == some []

/-- A segment as it is sent. -/
def encodeSegment (segment : List Char) : String :=
  String.ofList (Bytes.Percent.encodeWith keptInPath segment)

/-- Append a segment that another one follows. -/
def step (path : List String) (segment : List Char) : List String :=
  if isDoubleDot segment then path.dropLast
  else if isSingleDot segment then path
  else path ++ [encodeSegment segment]

/-- Append the last segment; one of dots leaves an empty segment at the end. -/
def finish (path : List String) (segment : List Char) : List String :=
  if isDoubleDot segment then path.dropLast ++ [""]
  else if isSingleDot segment then path ++ [""]
  else path ++ [encodeSegment segment]

/-- The path that the segments between slashes lead to. -/
def resolveFrom (path : List String) : List (List Char) → List String
  | [] => path
  | [last] => finish path last
  | segment :: segments => resolveFrom (step path segment) segments

/-- The text of a path without its first slash, cut at the others. -/
def segmentsOf (text : List Char) : List (List Char) :=
  Text.split isSlash (match text with
    | c :: rest => if isSlash c then rest else c :: rest
    | [] => [])

/-- The path that a text leads to. -/
def resolve (text : List Char) : List String := resolveFrom [] (segmentsOf text)

/-- A path as an address shows it. -/
def pathText (path : List String) : String := String.join (path.map ("/" ++ ·))

/-! ## The authority -/

/-- The text before and after the first colon outside brackets. -/
def splitPort : Bool → List Char → List Char × Option (List Char)
  | _, [] => ([], none)
  | inside, c :: cs =>
    if c = ':' && !inside then ([], some cs)
    else
      let inside := if c = '[' then true else if c = ']' then false else inside
      let (host, port) := splitPort inside cs
      (c :: host, port)

/-- The port of a scheme. -/
def defaultPort (secure : Bool) : Nat := if secure then 443 else 80

/-- Read a port; none when it is left out or the default. The outer option is the failure. -/
def port? (secure : Bool) : Option (List Char) → Option (Option Nat)
  | none => some none
  | some [] => some none
  | some digits =>
    match Text.natural? digits with
    | some n =>
      if 65535 < n then none else some (if n = defaultPort secure then none else some n)
    | none => none

/-- The name and the password before the host; an empty password is none. -/
def userInfo (cs : List Char) : String × Option String :=
  let encode := fun part => String.ofList (Bytes.Percent.encodeWith keptInUserInfo part)
  match Text.splitOnce ':' cs with
  | some (name, []) => (encode name, none)
  | some (name, password) => (encode name, some (encode password))
  | none => (encode cs, none)

/-! ## Reading -/

/-- Controls and spaces, which are dropped at both ends. -/
def isControlOrSpace (c : Char) : Bool := c.toNat ≤ 0x20

/-- Tabs and line breaks, which are dropped everywhere. -/
def isTabOrBreak (c : Char) : Bool := c == '\t' || c == '\n' || c == '\r'

/-- The characters that an address is read from. -/
def clean (cs : List Char) : List Char :=
  (Text.dropEndWhile isControlOrSpace (cs.dropWhile isControlOrSpace)).filter (!isTabOrBreak ·)

/-- Whether the named scheme is secured; only two schemes are known. -/
def scheme? (cs : List Char) : Option Bool :=
  let name := cs.map Char.toLower
  if name = "http".toList then some false
  else if name = "https".toList then some true
  else none

/-- The characters that end an authority. -/
def endsAuthority (c : Char) : Bool := isSlash c || c == '?' || c == '#'

/-- The characters that end a path. -/
def endsPath (c : Char) : Bool := c == '?' || c == '#'

/-- The query and the fragment of the text after a path. -/
def queryAndFragment (cs : List Char) : Option String × Option String :=
  let query := fun part => String.ofList (Bytes.Percent.encodeWith keptInQuery part)
  let fragment := fun part => String.ofList (Bytes.Percent.encodeWith keptInFragment part)
  match cs with
  | '?' :: rest =>
    match Text.splitOnce '#' rest with
    | some (q, f) => (some (query q), some (fragment f))
    | none => (some (query rest), none)
  | '#' :: rest => (none, some (fragment rest))
  | _ => (none, none)

/-- Read an address. -/
def parse? (s : String) : Option Url := do
  let (scheme, rest) ← Text.splitOnce ':' (clean s.toList)
  let secure ← scheme? scheme
  let rest := rest.dropWhile isSlash
  let authority := rest.takeWhile (!endsAuthority ·)
  let tail := rest.dropWhile (!endsAuthority ·)
  let (user, server) := match Text.splitLast '@' authority with
    | some (user, server) => (user, server)
    | none => ([], authority)
  let (username, password) := userInfo user
  let (hostText, portText) := splitPort false server
  let host ← Host.parse? hostText
  let port ← port? secure portText
  let (query, fragment) := queryAndFragment (tail.dropWhile (!endsPath ·))
  some { secure, username, password, host, port
         path := resolve (tail.takeWhile (!endsPath ·)), query, fragment }

/-! ## Writing -/

/-- Whether a name or a password stands before the host. -/
def hasUserInfo (u : Url) : Bool := u.username != "" || u.password.isSome

/-- The name and the password as an address shows them. -/
def userInfoText (u : Url) : String :=
  if !u.hasUserInfo then ""
  else match u.password with
    | some password => u.username ++ ":" ++ password ++ "@"
    | none => u.username ++ "@"

/-- An address without name and password. -/
def withoutUserInfo (u : Url) : Url := { u with username := "", password := none }

/-- An address in one text. -/
def toText (u : Url) : String :=
  (if u.secure then "https://" else "http://") ++ u.userInfoText ++ u.host.toText ++
    (match u.port with
      | some n => ":" ++ Nat.repr n
      | none => "") ++
    pathText u.path ++
    (match u.query with
      | some q => "?" ++ q
      | none => "") ++
    (match u.fragment with
      | some f => "#" ++ f
      | none => "")

/-- What is sent to the server: an address without its fragment. -/
def sent (u : Url) : String := { u with fragment := none }.toText

/-! ## Sending -/

/-- The most bytes of an address that can be sent. -/
def maxBytes : Nat := 65534

/-- Whether a request can be made to an address: its host keeps to the characters of host names, and
it is not too long. -/
def isSendable (u : Url) : Bool := u.host.isPlain && u.toText.utf8ByteSize ≤ maxBytes

end Url
end CiClient.Uri
