import CiClient.Toml.Node
import CiClient.Toml.Quote
import CiClient.Toml.Scalar

/-!
# TOML documents

A document is a sequence of statements, at most one on a line: headers, and keys with values. A
header holds for the keys up to the next one. `Toml.ofText?` reads a document; it is nothing when
the text breaks the grammar or defines something twice.
-/

set_option autoImplicit false

namespace CiClient.Toml

/-- A statement of a document. -/
inductive Statement where
  | header (repeated : Bool) (path : List String)
  | entry (path : List String) (value : Toml)

/-- Drop a comment, if there is one. -/
def skipComment : List Char → List Char
  | '#' :: cs => cs.dropWhile isPlain
  | cs => cs

/-- What follows a line on which nothing but white space and a comment is left. -/
def endLine? (cs : List Char) : Option (List Char) :=
  match skipComment (skipSpace cs) with
  | [] => some []
  | rest => newline? rest

/-- Drop white space, comments and ends of lines, as between the items of an array and between the
parts of a table in braces. -/
def skipFill : Bool → List Char → Option (List Char)
  | _, [] => some []
  | _, '\n' :: cs => skipFill false cs
  | _, '\r' :: '\n' :: cs => skipFill false cs
  | false, '#' :: cs => skipFill true cs
  | false, c :: cs => if isSpace c then skipFill false cs else some (c :: cs)
  | true, c :: cs => if isPlain c then skipFill true cs else none

/-- The characters of keys without quotes. -/
def isKeyChar (c : Char) : Bool :=
  ('a' ≤ c && c ≤ 'z') || ('A' ≤ c && c ≤ 'Z') || ('0' ≤ c && c ≤ '9') || c == '-' || c == '_'

/-- Read one part of a key. -/
def readKeyPart (cs : List Char) : Option (String × List Char) :=
  match quoted? cs with
  | some read => read.map fun (s, rest) => (String.ofList s, rest)
  | none =>
    let key := cs.takeWhile isKeyChar
    if key.isEmpty then none else some (String.ofList key, cs.dropWhile isKeyChar)

/-- Read a key of one or several parts. -/
def readKey : Nat → List Char → Option (List String × List Char)
  | 0, _ => none
  | fuel + 1, cs => do
    let (part, rest) ← readKeyPart (skipSpace cs)
    match skipSpace rest with
    | '.' :: rest => do
      let (parts, rest) ← readKey fuel rest
      some (part :: parts, rest)
    | rest => some ([part], rest)

/-- The characters of bare words. -/
def isWordChar (c : Char) : Bool := isKeyChar c || c == '+' || c == '.' || c == ':'

/-- Read a bare word. A date and the time after it may be divided by a space. -/
def readWord (cs : List Char) : List Char × List Char :=
  let word := cs.takeWhile isWordChar
  match cs.dropWhile isWordChar with
  | ' ' :: d :: rest =>
    if Text.isDigit d && (Moment.date? word).any (fun (_, left) => left.isEmpty) then
      (word ++ ' ' :: (d :: rest).takeWhile isWordChar, (d :: rest).dropWhile isWordChar)
    else (word, ' ' :: d :: rest)
  | rest => (word, rest)

/-- How many arrays and tables in braces may be nested. -/
def depthLimit : Nat := 80

mutual

/-- Read a value inside `depth` arrays and tables in braces. -/
def readValue : Nat → Nat → List Char → Option (Toml × List Char)
  | 0, _, _ => none
  | fuel + 1, depth, cs =>
    match string? cs with
    | some read => read.map fun (s, rest) => (.text (String.ofList s), rest)
    | none =>
      match cs with
      | '[' :: rest =>
        if depthLimit ≤ depth then none
        else (readItems fuel (depth + 1) rest).map fun (items, rest) => (.array items, rest)
      | '{' :: rest =>
        if depthLimit ≤ depth then none
        else do
          let (values, rest) ← readEntries fuel (depth + 1) rest
          let entries ← Node.assignAll values []
          some (.table (Node.entriesToToml entries), rest)
      | _ =>
        let (word, rest) := readWord cs
        (scalar? word).map fun value => (value, rest)

/-- Read the items up to the end of an array; a comma may follow the last one. -/
def readItems : Nat → Nat → List Char → Option (List Toml × List Char)
  | 0, _, _ => none
  | fuel + 1, depth, cs => do
    match ← skipFill false cs with
    | ']' :: rest => some ([], rest)
    | cs => do
      let (item, rest) ← readValue fuel depth cs
      match ← skipFill false rest with
      | ']' :: rest => some ([item], rest)
      | ',' :: rest => do
        let (items, rest) ← readItems fuel depth rest
        some (item :: items, rest)
      | _ => none

/-- Read the entries up to the end of a table in braces; a comma may follow the last one. -/
def readEntries : Nat → Nat → List Char → Option (List (List String × Toml) × List Char)
  | 0, _, _ => none
  | fuel + 1, depth, cs => do
    match ← skipFill false cs with
    | '}' :: rest => some ([], rest)
    | cs => do
      let (path, rest) ← readKey fuel cs
      match ← skipFill false rest with
      | '=' :: rest => do
        let (value, rest) ← readValue fuel depth (← skipFill false rest)
        match ← skipFill false rest with
        | '}' :: rest => some ([(path, value)], rest)
        | ',' :: rest => do
          let (entries, rest) ← readEntries fuel depth rest
          some ((path, value) :: entries, rest)
        | _ => none
      | _ => none

end

/-- Read the rest of a header after its brackets were opened. -/
def readHeader (fuel : Nat) (repeated : Bool) (cs : List Char) :
    Option (Statement × List Char) := do
  let (path, rest) ← readKey fuel cs
  match repeated, rest with
  | true, ']' :: ']' :: rest => some (.header true path, rest)
  | false, ']' :: rest => some (.header false path, rest)
  | _, _ => none

/-- Read a statement. -/
def readStatement (fuel : Nat) : List Char → Option (Statement × List Char)
  | '[' :: '[' :: rest => readHeader fuel true rest
  | '[' :: rest => readHeader fuel false rest
  | cs => do
    let (path, rest) ← readKey fuel cs
    match rest with
    | '=' :: rest => do
      let (value, rest) ← readValue fuel 0 (skipSpace rest)
      some (.entry path value, rest)
    | _ => none

/-- Read the statements of a document. -/
def readStatements : Nat → List Char → Option (List Statement)
  | 0, _ => none
  | fuel + 1, cs => do
    match ← skipFill false cs with
    | [] => some []
    | cs => do
      let (statement, rest) ← readStatement fuel cs
      let statements ← readStatements fuel (← endLine? rest)
      some (statement :: statements)

/-- The values of one header. -/
structure Section where
  repeated : Bool
  path : List String
  values : List (List String × Toml)

/-- The values in front of the first header, and the sections. -/
def sections : List Statement → List (List String × Toml) × List Section
  | [] => ([], [])
  | .entry path value :: statements =>
    let (values, sections) := sections statements
    ((path, value) :: values, sections)
  | .header repeated path :: statements =>
    let (values, sections) := sections statements
    ([], ⟨repeated, path, values⟩ :: sections)

/-- The table that statements define. -/
def ofStatements? (statements : List Statement) : Option Toml :=
  let (values, sections) := sections statements
  (sections.foldlM (fun entries s => Node.define s.repeated s.values s.path entries) =<<
    Node.assignAll values []).map fun entries => .table (Node.entriesToToml entries)

/-- Drop a byte order mark at the front of a text. -/
def dropMark : List Char → List Char
  | '\uFEFF' :: cs => cs
  | cs => cs

/-- Read a document. -/
def ofText? (s : String) : Option Toml :=
  let cs := dropMark s.toList
  (readStatements (2 * cs.length + 2) cs).bind ofStatements?

end CiClient.Toml
