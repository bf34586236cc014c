import CiClient.Text.Decimal

/-!
# Doubles

A number that is no integer of 64 bits is held as an IEEE double, by its bits. `scaled?` gives a
decimal numeral its double as JSON texts are read: the digits are rounded once, then one
multiplication or division by a power of ten is rounded again, so a numeral too large for a double
has no value. `shortest` finds the fewest digits that read back as the same double, and
`Layout.render` writes them.
-/

set_option autoImplicit false

namespace CiClient

/-- A double, by its bits. -/
structure Double where
  bits : UInt64
  deriving DecidableEq

namespace Double

/-- The double of a machine number. -/
def ofFloat (f : Float) : Double := ⟨f.toBits⟩

/-- A power of ten, for exponents up to 308. -/
def powerOfTen (k : Nat) : Float := Float.ofScientific 1 false k

/-- Divide by a power of ten, in steps that a double can hold. -/
def shrink (f : Float) (k : Nat) : Float :=
  if h : k ≤ 308 then f / powerOfTen k
  else if f == 0 then f
  else shrink (f / powerOfTen 308) (k - 308)
termination_by k
decreasing_by omega

/-- Multiply by a power of ten; nothing when the product is too large. -/
def grow? (f : Float) (k : Nat) : Option Float :=
  if k ≤ 308 then
    let g := f * powerOfTen k
    if g.isInf then none else some g
  else if f == 0 then some f
  else none

/-- The double of a sign, some digits and a power of ten. -/
def scaled? (negative : Bool) (digits : UInt64) (exponent : Int) : Option Double :=
  let f := digits.toFloat
  let magnitude? := if 0 ≤ exponent then grow? f exponent.toNat
    else some (shrink f exponent.natAbs)
  magnitude?.map fun g => ofFloat (if negative then -g else g)

/-- The double next to a decimal numeral; nothing when it is infinite. -/
def nearest? (negative : Bool) (digits : Nat) (exponent : Int) : Option Double :=
  let f := if exponent < 0 then Float.ofScientific digits true exponent.natAbs
    else Float.ofScientific digits false exponent.toNat
  if f.isInf then none else some (ofFloat (if negative then -f else f))

/-- The sign bit. -/
def isNegative (d : Double) : Bool := d.bits >>> 63 == 1

/-- The eleven bits of the exponent. -/
def exponentBits (d : Double) : Nat := (d.bits >>> 52).toNat % 2048

/-- The place value of the bit above the fifty-two bits of the fraction. -/
def leadingBit : Nat := 0x10000000000000

/-- The fifty-two bits of the fraction. -/
def fractionBits (d : Double) : Nat := d.bits.toNat % leadingBit

/-- Whether a double is a number at all. -/
def isFinite (d : Double) : Bool := d.exponentBits != 2047

/-- The integer `m` and the exponent `q` with magnitude `m * 2 ^ q`. -/
def parts (d : Double) : Nat × Int :=
  if d.exponentBits = 0 then (d.fractionBits, -1074)
  else (leadingBit + d.fractionBits, (d.exponentBits : Int) - 1075)

/-- A power with the exponent `e`, or one when it is negative. -/
def powerOf (base : Nat) (e : Int) : Nat := Nat.pow base e.toNat

/-- Whether `n * 10 ^ t ≤ x * 2 ^ q`. -/
def decimalLe (n : Nat) (t : Int) (x : Nat) (q : Int) : Bool :=
  n * powerOf 10 t * powerOf 2 (-q) ≤ x * powerOf 2 q * powerOf 10 (-t)

/-- Whether `x * 2 ^ q ≤ n * 10 ^ t`. -/
def binaryLe (x : Nat) (q : Int) (n : Nat) (t : Int) : Bool :=
  x * powerOf 2 q * powerOf 10 (-t) ≤ n * powerOf 10 t * powerOf 2 (-q)

/-- Whether `n * 10 ^ t` reads back as `m * 2 ^ q`: it lies between the midpoints to the two
neighbouring doubles, ends included when `m` is even. Above a power of two the lower neighbour is
twice as near. -/
def readsBack (m : Nat) (q : Int) (n : Nat) (t : Int) : Bool :=
  let low := if m = leadingBit ∧ -1074 < q then 4 * m - 1 else 4 * m - 2
  let high := 4 * m + 2
  if m % 2 = 0 then binaryLe low (q - 2) n t && decimalLe n t high (q - 2)
  else !decimalLe n t low (q - 2) && !binaryLe high (q - 2) n t

/-- Which of two equally near neighbours is taken. -/
inductive Tie where
  | toEven
  | up

/-- The multiple of `10 ^ t` that reads back as `m * 2 ^ q`, the nearer one if there are two. -/
def onGrid? (tie : Tie) (m : Nat) (q t : Int) : Option Nat :=
  let n := m * powerOf 2 q * powerOf 10 (-t) / (powerOf 10 t * powerOf 2 (-q))
  match readsBack m q n t, readsBack m q (n + 1) t with
  | true, false => some n
  | false, true => some (n + 1)
  | false, false => none
  | true, true =>
    if !decimalLe (2 * n + 1) t m (q + 1) then some n
    else if !binaryLe m (q + 1) (2 * n + 1) t then some (n + 1)
    else match tie with
      | .toEven => if n % 2 = 0 then some n else some (n + 1)
      | .up => some (n + 1)

/-- The fewest digits that read back, with the exponent of the last one: the coarsest decimal grid
with a point near enough. -/
def shortest (tie : Tie) (d : Double) : Nat × Int :=
  let (m, q) := d.parts
  if m = 0 then (0, 0)
  else
    let hit? := (List.range 660).findSome? fun (i : Nat) =>
      let t : Int := 309 - (i : Int)
      (onGrid? tie m q t).map fun n => (n, t)
    hit?.getD (m, q)

/-- How a double is laid out in text. -/
structure Layout where
  /-- The positions of the decimal point, counted from the first digit, that are written without an
  exponent. -/
  positional : Int → Bool
  /-- Which digits are written when two choices are equally near. -/
  tie : Tie

/-- Digits with the decimal point after `point` of them. -/
def withPoint (digits : List Char) (point : Int) : List Char :=
  if point ≤ 0 then
    '0' :: '.' :: (List.replicate point.natAbs '0' ++ digits)
  else if digits.length ≤ point.toNat then
    digits ++ List.replicate (point.toNat - digits.length) '0' ++ ['.', '0']
  else digits.take point.toNat ++ '.' :: digits.drop point.toNat

/-- Digits with one of them before the decimal point, and the exponent that makes up for it, which
always has its sign. -/
def withExponent (digits : List Char) (point : Int) : List Char :=
  let mantissa := match digits with
    | first :: second :: rest => first :: '.' :: second :: rest
    | _ => digits
  let e := point - 1
  mantissa ++ 'e' :: (if e < 0 then '-' else '+') :: Nat.toDigits 10 e.natAbs

/-- The text of the magnitude of a finite double: the fewest digits that read back, always with a
fraction when no exponent is written. -/
def Layout.magnitude (layout : Layout) (d : Double) : List Char :=
  let (n, t) := d.shortest layout.tie
  if n = 0 then ['0', '.', '0']
  else
    let digits := Nat.toDigits 10 n
    let point := (digits.length : Int) + t
    if layout.positional point then withPoint digits point else withExponent digits point

/-- The text of a double. What is no number has no sign. -/
def Layout.render (layout : Layout) (d : Double) : String :=
  let sign := if d.isNegative then ['-'] else []
  if d.isFinite then String.ofList (sign ++ layout.magnitude d)
  else if d.fractionBits = 0 then String.ofList (sign ++ ['i', 'n', 'f'])
  else "NaN"

/-- A short text: positional from five leading zeros to sixteen digits before the point. -/
def compact : Layout := ⟨fun point => -5 < point && point ≤ 16, .toEven⟩

/-- A text that never has an exponent. -/
def positional : Layout := ⟨fun _ => true, .up⟩

end Double
end CiClient
