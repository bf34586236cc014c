import CiClient.Bytes.Percent
import CiClient.Text.Split

/-!
# Tables over code points

A property of characters is given by a table: runs of code points in ascending order, each with the
numbers that belong to it. `find?` looks a character up by halving the table.

A table is written as rows of entries with blanks between them, all numbers in hexadecimal. An entry
is a code point or the first and the last one of a run; after a colon follow its numbers, with a
plus sign between them.
-/

set_option autoImplicit false

namespace CiClient.Unicode

/-- A run of code points and the numbers that belong to it. -/
structure Span where
  first : Nat
  last : Nat
  values : List Nat
  deriving DecidableEq

/-- A hexadecimal number. -/
def number (cs : List Char) : Nat :=
  cs.foldl (fun n c => n * 16 + (Bytes.Percent.hexValue? c).getD 0) 0

/-- A run without its numbers. -/
def Span.ofRange (cs : List Char) (values : List Nat) : Span :=
  match Text.splitOnce '-' cs with
  | some (first, last) => ⟨number first, number last, values⟩
  | none => ⟨number cs, number cs, values⟩

/-- An entry of a row. -/
def Span.ofEntry (cs : List Char) : Span :=
  match Text.splitOnce ':' cs with
  | some (range, values) => .ofRange range ((Text.split (· == '+') values).map number)
  | none => .ofRange cs []

/-- Runs of code points that ascend. -/
structure Table where
  spans : Array Span

namespace Table

/-- The table that is written in rows. -/
def ofRows (rows : List String) : Table :=
  ⟨(rows.flatMap fun row => (Text.split (· == ' ') row.toList).map Span.ofEntry).toArray⟩

/-- The run that holds a code point, if it is among those from place `low` to before `high`. -/
def search (spans : Array Span) (n low high : Nat) : Option Span :=
  if low < high then
    match spans[(low + high) / 2]? with
    | some span =>
      if n < span.first then search spans n low ((low + high) / 2)
      else if span.last < n then search spans n ((low + high) / 2 + 1) high
      else some span
    | none => none
  else none
termination_by high - low
decreasing_by
  · omega
  · omega

/-- The run that holds a character. -/
def find? (t : Table) (c : Char) : Option Span := search t.spans c.toNat 0 t.spans.size

/-- Whether some run holds a character. -/
def contains (t : Table) (c : Char) : Bool := (t.find? c).isSome

end Table
end CiClient.Unicode
