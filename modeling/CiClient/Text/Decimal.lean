/-!
# Whole numbers in decimal

`natural?` reads a non-empty run of ASCII digits, `integer?` one with an optional sign in front,
and `int64?` the integers of 64 bits among them. Leading zeros are allowed, digits of other
scripts are not.
-/

set_option autoImplicit false

namespace CiClient.Text

/-- The ASCII digits. -/
def isDigit (c : Char) : Bool := '0' ≤ c && c ≤ '9'

/-- The value of an ASCII digit. -/
def digitValue (c : Char) : Nat := c.toNat - '0'.toNat

/-- The number that a run of digits denotes in base ten. -/
def digitsValue (cs : List Char) : Nat := cs.foldl (fun n c => 10 * n + digitValue c) 0

/-- Read a non-empty run of digits. -/
def natural? (cs : List Char) : Option Nat :=
  if cs.isEmpty || !cs.all isDigit then none else some (digitsValue cs)

/-- Read a non-empty run of digits after an optional sign. -/
def integer? : List Char → Option Int
  | '+' :: cs => (natural? cs).map Int.ofNat
  | '-' :: cs => (natural? cs).map fun n => -(n : Int)
  | cs => (natural? cs).map Int.ofNat

/-- Whether an integer has 64 bits, sign included. -/
def fitsInt64 (n : Int) : Bool := Int64.minValue.toInt ≤ n && n ≤ Int64.maxValue.toInt

/-- Read an integer of 64 bits. -/
def int64? (cs : List Char) : Option Int64 :=
  match integer? cs with
  | some n => if fitsInt64 n then some (Int64.ofInt n) else none
  | none => none

/-- An integer of 64 bits in decimal. -/
def ofInt64 (n : Int64) : String :=
  if n.toInt < 0 then "-" ++ Nat.repr n.toInt.natAbs else Nat.repr n.toInt.natAbs

end CiClient.Text
