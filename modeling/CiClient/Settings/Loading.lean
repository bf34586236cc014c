import CiClient.Bytes.Utf8
import CiClient.Settings.Basic
import CiClient.Toml.Document

/-!
# Loading settings

Settings may come from a TOML document, in which strings may refer to variables. First the document
is read as a whole, then all references in it are replaced, and at last its keys are looked at, in
their order. Keys that are no setting are skipped.
-/

set_option autoImplicit false

namespace CiClient.Settings

/-- Why settings could not be loaded. -/
inductive LoadError where
  /-- There is no such file. -/
  | missingFile (path : String)
  /-- A file holds bytes that are no text. -/
  | undecodable (path : String)
  /-- A text is no document. -/
  | malformed
  /-- A reference is to a variable that is not set. -/
  | missingVariable (name : String)
  /-- A setting has a value of another kind. -/
  | mistyped (key : String) (value : Toml) (expected : String)
  /-- A setting has a number out of range. -/
  | outOfRange (key : String) (value : Toml) (expected : String)

/-- A value as messages show it. -/
def describeToml : Toml → String
  | .text s => "string " ++ Text.quoted s
  | .integer n => "integer \x60" ++ Text.ofInt64 n ++ "\x60"
  | .double d => "floating point \x60" ++ Double.positional.render d ++ "\x60"
  | .boolean b => "boolean \x60" ++ (if b then "true" else "false") ++ "\x60"
  | .moment s => "string " ++ Text.quoted s
  | .array _ => "sequence"
  | .table _ => "map"

/-- The wording of what is wrong with the value of a key. -/
def keyMessage (problem key : String) (value : Toml) (expected : String) : String :=
  "Invalid configuration: invalid " ++ problem ++ ": " ++ describeToml value ++ ", expected " ++
    expected ++ "\nin \x60" ++ key ++ "\x60\n"

namespace LoadError

/-- The wording of an error. -/
def message : LoadError → String
  | missingFile path => "Failed to read " ++ path ++ ": No such file or directory (os error 2)"
  | undecodable path => "Failed to read " ++ path ++ ": stream did not contain valid UTF-8"
  | malformed => "Failed to parse TOML"
  | missingVariable name => "Required environment variable not found: " ++ name
  | mistyped key value expected => keyMessage "type" key value expected
  | outOfRange key value expected => keyMessage "value" key value expected

/-- The error of a client that cannot be configured. -/
def toClientError (e : LoadError) : ClientError := .unloadable e.message

end LoadError

/-- The text of a value. A date or time counts as its text. -/
def textOf (key : String) : Toml → Except LoadError String
  | .text s => .ok s
  | .moment s => .ok s
  | value => .error (.mistyped key value "a string")

/-- A number without sign. -/
def naturalOf (key : String) : Toml → Except LoadError UInt64
  | .integer n => if n < 0 then .error (.outOfRange key (.integer n) "u64") else .ok n.toUInt64
  | value => .error (.mistyped key value "u64")

/-- Take over the value of a key. -/
def withEntry (s : Settings) (key : String) (value : Toml) : Except LoadError Settings :=
  match key with
  | "api_token" => (textOf key value).map fun token => { s with apiToken := some token }
  | "credentials" => (textOf key value).map fun login => { s with credentials := some login }
  | "endpoint" => (textOf key value).map fun endpoint => { s with endpoint := endpoint }
  | "timeout_secs" => (naturalOf key value).map fun timeout => { s with timeout := timeout }
  | _ => .ok s

/-- Take over the values of several keys, in their order. -/
def withEntries : Settings → List (String × Toml) → Except LoadError Settings
  | s, [] => .ok s
  | s, (key, value) :: entries => (s.withEntry key value).bind fun s => s.withEntries entries

/-- Trim the logins and drop those that are blank. -/
def withoutBlanks (s : Settings) : Settings :=
  { s with
    credentials := s.credentials.bind Text.nonBlank?
    apiToken := s.apiToken.bind Text.nonBlank? }

/-- The settings that a table gives. -/
def ofToml : Toml → Except LoadError Settings
  | .table entries => (standard.withEntries entries).map withoutBlanks
  | _ => .error .malformed

/-- The settings that a document gives. -/
def ofDocument (env : Environment) (document : String) : Except LoadError Settings :=
  match Toml.ofText? document with
  | none => .error .malformed
  | some toml =>
    match toml.expand env with
    | .error name => .error (.missingVariable name)
    | .ok toml => ofToml toml

/-- The settings that a file gives, of which the content is known unless there is no such file. -/
def ofFile (env : Environment) (path : String) (content : Option (List UInt8)) :
    Except LoadError Settings :=
  match content with
  | none => .error (.missingFile path)
  | some bytes =>
    match Bytes.ofUtf8? bytes with
    | none => .error (.undecodable path)
    | some document => ofDocument env document

end CiClient.Settings
