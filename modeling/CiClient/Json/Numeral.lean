import CiClient.Json.Basic

/-!
# Numerals of JSON texts

A numeral is an optional minus, digits without a superfluous zero, and optionally a fraction and an
exponent. `Numeral.value?` gives its value: an integer of 64 bits where the numeral is one, else a
double. A double is computed from the first digits, as many as fit into 64 bits, and a power of ten;
a numeral too large for a double has no value.
-/

set_option autoImplicit false

namespace CiClient.Json

/-- A numeral taken apart. -/
structure Numeral where
  negative : Bool
  whole : List Char
  fraction : Option (List Char)
  exponent : Option (Bool × List Char)

namespace Numeral

/-- Digits at the front of a text, and what follows. -/
def digits (cs : List Char) : List Char × List Char :=
  (cs.takeWhile Text.isDigit, cs.dropWhile Text.isDigit)

/-- The digits before the point; a zero stands alone. -/
def lexWhole : List Char → Option (List Char × List Char)
  | '0' :: rest =>
    match rest with
    | d :: _ => if Text.isDigit d then none else some (['0'], rest)
    | [] => some (['0'], rest)
  | cs =>
    let (ds, rest) := digits cs
    if ds.isEmpty then none else some (ds, rest)

/-- The fraction, if a point follows. -/
def lexFraction : List Char → Option (Option (List Char) × List Char)
  | '.' :: rest =>
    let (ds, rest) := digits rest
    if ds.isEmpty then none else some (some ds, rest)
  | cs => some (none, cs)

/-- The sign of an exponent; true for a minus. -/
def lexSign : List Char → Bool × List Char
  | '+' :: rest => (false, rest)
  | '-' :: rest => (true, rest)
  | cs => (false, cs)

/-- The exponent, if its letter follows. -/
def lexExponent : List Char → Option (Option (Bool × List Char) × List Char)
  | [] => some (none, [])
  | c :: rest =>
    if c = 'e' || c = 'E' then
      let (minus, rest) := lexSign rest
      let (ds, rest) := digits rest
      if ds.isEmpty then none else some (some (minus, ds), rest)
    else some (none, c :: rest)

/-- Read a numeral at the front of a text. -/
def lex (cs : List Char) : Option (Numeral × List Char) := do
  let (negative, cs) := match cs with
    | '-' :: rest => (true, rest)
    | _ => (false, cs)
  let (whole, cs) ← lexWhole cs
  let (fraction, cs) ← lexFraction cs
  let (exponent, cs) ← lexExponent cs
  some (⟨negative, whole, fraction, exponent⟩, cs)

/-- The largest number of 64 bits. -/
def limit : Nat := UInt64.size - 1

/-- Digits collected so far, the power of ten they stand for, and whether the next one no longer
fits. -/
structure Collected where
  significand : Nat
  power : Int
  full : Bool

/-- Collect a digit before the point; one that does not fit raises the power. -/
def collectWhole (s : Collected) (c : Char) : Collected :=
  let n := s.significand * 10 + Text.digitValue c
  if s.full || limit < n then { s with power := s.power + 1, full := true }
  else { s with significand := n }

/-- Collect a digit after the point; one that does not fit is dropped with all after it. -/
def collectFraction (s : Collected) (c : Char) : Collected :=
  let n := s.significand * 10 + Text.digitValue c
  if s.full || limit < n then { s with full := true }
  else { s with significand := n, power := s.power - 1 }

/-- The largest exponent that is told from an infinite one. -/
def exponentLimit : Nat := 0x7FFFFFFF

/-- The double of a numeral. -/
def double? (negative : Bool) (s : Collected) (exponent : Option (Bool × List Char)) :
    Option Double :=
  let significand := UInt64.ofNat s.significand
  match exponent with
  | none => Double.scaled? negative significand s.power
  | some (minus, ds) =>
    let e := Text.digitsValue ds
    if exponentLimit < e then
      if s.significand != 0 && !minus then none else Double.scaled? negative 0 0
    else Double.scaled? negative significand (if minus then s.power - e else s.power + e)

/-- The value of a numeral; nothing when it is too large for a double. -/
def value? (n : Numeral) : Option Number :=
  let whole := n.whole.foldl collectWhole ⟨0, 0, false⟩
  match n.fraction, n.exponent with
  | none, none =>
    if whole.full then (double? n.negative whole none).map .double
    else if !n.negative then some (.integer whole.significand)
    else if whole.significand = 0 || 0x8000000000000000 < whole.significand then
      (double? true whole none).map .double
    else some (.integer (-(whole.significand : Int)))
  | fraction, exponent =>
    let s := (fraction.getD []).foldl collectFraction { whole with full := false }
    (double? n.negative s exponent).map .double

end Numeral
end CiClient.Json
