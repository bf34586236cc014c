import CiClient.Bytes.Percent
import CiClient.Text.Decimal
import CiClient.Text.Split
import CiClient.Uri.Domain.Ascii

/-!
# Hosts

The host of an address is a domain, four bytes or eight groups of sixteen bits. A domain is
percent-decoded and written in ASCII; one whose last label is a number has to be an address of four
bytes.
-/

set_option autoImplicit false

namespace CiClient.Uri

/-- The host of an address. -/
inductive Host where
  | domain (name : String)
  | ipv4 (address : Nat)
  | ipv6 (groups : List Nat)
  deriving DecidableEq

namespace Host

/-! ## Four bytes -/

/-- The digits of a number part and their base: hexadecimal after `0x`, octal after `0`. -/
def numberBase : List Char → List Char × Nat
  | '0' :: 'x' :: ds => (ds, 16)
  | '0' :: 'X' :: ds => (ds, 16)
  | '0' :: d :: ds => (d :: ds, 8)
  | ds => (ds, 10)

/-- A number part of an address of four bytes. -/
def numberPart? (cs : List Char) : Option Nat :=
  if cs.isEmpty then none
  else
    let (ds, base) := numberBase cs
    (ds.mapM fun d => (Bytes.Percent.hexValue? d).filter (· < base)).map fun vs =>
      vs.foldl (fun n v => n * base + v) 0

/-- The labels of a name, without the empty one after a final dot. -/
def dottedParts (cs : List Char) : List (List Char) :=
  let parts := Text.split (· == '.') cs
  if 1 < parts.length && parts.getLast?.any List.isEmpty then parts.dropLast else parts

/-- Whether the last label of a name is a number. -/
def endsInNumber (cs : List Char) : Bool :=
  match (dottedParts cs).getLast? with
  | some part => !part.isEmpty && (part.all Text.isDigit || (numberPart? part).isSome)
  | none => false

/-- The address that number parts denote: all but the last are bytes, the last fills the rest. -/
def ipv4OfParts? (parts : List Nat) : Option Nat :=
  let count := parts.length
  if count = 0 || 4 < count then none
  else
    let heads := parts.dropLast
    let last := parts.getLastD 0
    if heads.any (255 < ·) || Nat.pow 256 (5 - count) ≤ last then none
    else
      let high := heads.foldl (fun n b => n * 256 + b) 0
      some (high * Nat.pow 256 (5 - count) + last)

/-- Read an address of four bytes. -/
def ipv4? (cs : List Char) : Option Nat :=
  ((dottedParts cs).mapM numberPart?).bind ipv4OfParts?

/-- An address of four bytes, in decimal. -/
def ipv4Text (address : Nat) : String :=
  String.intercalate "." ([24, 16, 8, 0].map fun shift => Nat.repr (address >>> shift % 256))

/-! ## Eight groups -/

/-- A group of one to four hexadecimal digits. -/
def group? (cs : List Char) : Option Nat :=
  if cs.isEmpty || 4 < cs.length then none
  else (cs.mapM Bytes.Percent.hexValue?).map fun vs => vs.foldl (fun n v => n * 16 + v) 0

/-- A byte in decimal without leading zeros. -/
def decimalByte? (cs : List Char) : Option Nat :=
  if 1 < cs.length && cs.head? == some '0' then none
  else (Text.natural? cs).filter (· < 256)

/-- Two groups written as four bytes in decimal. -/
def dottedGroups? (cs : List Char) : Option (List Nat) := do
  match ← (Text.split (· == '.') cs).mapM decimalByte? with
  | [a, b, c, d] => some [a * 256 + b, c * 256 + d]
  | _ => none

/-- Groups between colons; the last two may be written as four bytes. -/
def groups? (cs : List Char) : Option (List Nat) :=
  if cs.isEmpty then some []
  else do
    let pieces := Text.split (· == ':') cs
    let heads ← pieces.dropLast.mapM group?
    let last := pieces.getLastD []
    let tail ← if last.contains '.' then dottedGroups? last else (group? last).map fun g => [g]
    some (heads ++ tail)

/-- The parts around the first two colons in a row. -/
def splitDoubleColon : List Char → Option (List Char × List Char)
  | ':' :: ':' :: rest => some ([], rest)
  | c :: rest => (splitDoubleColon rest).map fun (a, b) => (c :: a, b)
  | [] => none

/-- Read eight groups; two colons in a row stand for one or more groups of zero. -/
def ipv6? (cs : List Char) : Option (List Nat) :=
  match splitDoubleColon cs with
  | none => (groups? cs).filter (·.length == 8)
  | some (left, right) => do
    let heads ← groups? left
    let tails ← groups? right
    if left.contains '.' || 8 ≤ heads.length + tails.length then none
    else some (heads ++ List.replicate (8 - (heads.length + tails.length)) 0 ++ tails)

/-- The length of the run of zeros at the front. -/
def zeroRun (groups : List Nat) : Nat := (groups.takeWhile (· == 0)).length

/-- The place and the length of the first longest run of zeros. -/
def longestZeroRun (groups : List Nat) : Nat × Nat :=
  (List.range groups.length).foldl (fun (best : Nat × Nat) i =>
    let run := zeroRun (groups.drop i)
    if best.2 < run then (i, run) else best) (0, 0)

/-- Groups in hexadecimal, joined by colons. -/
def groupsText (groups : List Nat) : String :=
  String.intercalate ":" (groups.map fun g => String.ofList (Nat.toDigits 16 g))

/-- Eight groups between brackets, the longest run of two or more zeros left out. -/
def ipv6Text (groups : List Nat) : String :=
  let (place, run) := longestZeroRun groups
  if run < 2 then "[" ++ groupsText groups ++ "]"
  else
    "[" ++ groupsText (groups.take place) ++ "::" ++ groupsText (groups.drop (place + run)) ++ "]"

/-! ## Reading and writing -/

/-- Read a host. -/
def parse? (cs : List Char) : Option Host :=
  match cs with
  | [] => none
  | '[' :: inner =>
    if inner.getLast? == some ']' then (ipv6? inner.dropLast).map ipv6 else none
  | _ => do
    let name ← Bytes.ofUtf8? (Bytes.Percent.decode cs)
    let ascii ← (Domain.toAscii? name).filter (!·.isEmpty)
    if endsInNumber ascii then (ipv4? ascii).map ipv4
    else some (domain (String.ofList ascii))

/-- A host as an address shows it. -/
def toText : Host → String
  | domain name => name
  | ipv4 address => ipv4Text address
  | ipv6 groups => ipv6Text groups

/-- The characters of host names: letters, digits and the signs that separate nothing. -/
def isNameChar (c : Char) : Bool :=
  c.isAlphanum ||
    ['-', '.', '_', '~', '!', '$', '&', '\x27', '(', ')', '*', '+', ',', ';', '='].contains c

/-- Whether a host keeps to the characters of host names. -/
def isPlain : Host → Bool
  | domain name => name.toList.all isNameChar
  | ipv4 _ => true
  | ipv6 _ => true

end Host
end CiClient.Uri
