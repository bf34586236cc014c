import CiClient.Toml.Basic

/-!
# Tables under construction

A document defines its tables piece by piece: by headers, by headers of tables within them, and by
keys of several parts. What may be added to a table later depends on how it came about, so a `Node`
remembers that. `assign` adds a value under a key of several parts, `define` the table of a header,
and `toToml` forgets how the tables came about.
-/

set_option autoImplicit false

namespace CiClient.Toml

/-- How a table came about. -/
inductive Origin where
  /-- A header names it. -/
  | header
  /-- A header names a table within it. -/
  | implied
  /-- A key of several parts leads through it. -/
  | dotted
  deriving DecidableEq

/-- A part of a document under construction. -/
inductive Node where
  /-- A value that nothing can be added to. -/
  | value (v : Toml)
  | table (origin : Origin) (entries : List (String × Node))
  /-- An array of tables; headers go into the last one. -/
  | rows (earlier : List (List (String × Node))) (last : List (String × Node))

namespace Node

/-- Add a value under a key of several parts. Each part but the last leads into a table that no
header names; a table that was there before takes a value only if it is `growing`, that is if such
keys made it. -/
def assign : Bool → List String → Toml → List (String × Node) → Option (List (String × Node))
  | _, [], _, _ => none
  | growing, [key], v, entries =>
    if growing && (Members.get? entries key).isNone then
      some (Members.put key (.value v) entries)
    else none
  | _, key :: path, v, entries =>
    match Members.get? entries key with
    | none => (assign true path v []).map fun sub => Members.put key (.table .dotted sub) entries
    | some (.table origin sub) =>
      if origin = .header then none
      else (assign (origin = .dotted) path v sub).map fun sub =>
        Members.put key (.table origin sub) entries
    | some (.rows earlier last) =>
      (assign false path v last).map fun last => Members.put key (.rows earlier last) entries
    | some (.value _) => none

/-- Add several values. -/
def assignAll : List (List String × Toml) → List (String × Node) →
    Option (List (String × Node))
  | [], entries => some entries
  | (path, v) :: values, entries => (assign true path v entries).bind (assignAll values)

/-- Add the table of a header with its values; a repeated header adds a table to an array. A header
may name a table that so far was only implied. -/
def define (repeated : Bool) (values : List (List String × Toml)) :
    List String → List (String × Node) → Option (List (String × Node))
  | [], _ => none
  | [key], entries =>
    match repeated, Members.get? entries key with
    | true, none =>
      (assignAll values []).map fun row => Members.put key (.rows [] row) entries
    | true, some (.rows earlier last) =>
      (assignAll values []).map fun row => Members.put key (.rows (earlier ++ [last]) row) entries
    | false, none =>
      (assignAll values []).map fun sub => Members.put key (.table .header sub) entries
    | false, some (.table .implied sub) =>
      (assignAll values sub).map fun sub => Members.put key (.table .header sub) entries
    | _, _ => none
  | key :: path, entries =>
    match Members.get? entries key with
    | none =>
      (define repeated values path []).map fun sub =>
        Members.put key (.table .implied sub) entries
    | some (.table origin sub) =>
      (define repeated values path sub).map fun sub =>
        Members.put key (.table origin sub) entries
    | some (.rows earlier last) =>
      (define repeated values path last).map fun last =>
        Members.put key (.rows earlier last) entries
    | some (.value _) => none

mutual

/-- The value of a finished part. -/
def toToml : Node → Toml
  | .value v => v
  | .table _ entries => .table (entriesToToml entries)
  | .rows earlier last => .array (rowsToToml earlier ++ [.table (entriesToToml last)])

/-- The entries of a finished table. -/
def entriesToToml : List (String × Node) → List (String × Toml)
  | [] => []
  | (key, node) :: entries => (key, node.toToml) :: entriesToToml entries

/-- The tables of a finished array of tables. -/
def rowsToToml : List (List (String × Node)) → List Toml
  | [] => []
  | row :: others => .table (entriesToToml row) :: rowsToToml others

end

end Node
end CiClient.Toml
