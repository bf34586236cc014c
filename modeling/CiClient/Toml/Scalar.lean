import CiClient.Bytes.Percent
import CiClient.Toml.Basic
import CiClient.Toml.Moment

/-!
# Scalars without quotes

What stands in a document as a bare word: a truth value, an integer, a number with a fraction or an
exponent, a date or a time. An underscore may stand between two digits. Integers have 64 bits, and a
number too large for a double is refused.
-/

set_option autoImplicit false

namespace CiClient.Toml

/-- Remove the underscores, each of which has to stand between two digits. -/
def plainDigits? (isDigit : Char → Bool) : List Char → Option (List Char)
  | [] => none
  | [c] => if isDigit c then some [c] else none
  | c :: '_' :: cs =>
    if isDigit c then (plainDigits? isDigit cs).map (c :: ·) else none
  | c :: d :: cs =>
    if isDigit c then (plainDigits? isDigit (d :: cs)).map (c :: ·) else none

/-- Read digits in base ten that do not begin with a superfluous zero. -/
def wholeDigits? (cs : List Char) : Option (List Char) :=
  match plainDigits? Text.isDigit cs with
  | some ('0' :: _ :: _) => none
  | ds => ds

/-- The sign at the front of a numeral; true for a minus. -/
def signOf : List Char → Bool × List Char
  | '+' :: cs => (false, cs)
  | '-' :: cs => (true, cs)
  | cs => (false, cs)

/-- The number of some digits in a base of at most sixteen. -/
def basedDigits? (base : Nat) (cs : List Char) : Option Nat :=
  let isDigit (c : Char) : Bool := (Bytes.Percent.hexValue? c).any (· < base)
  (plainDigits? isDigit cs).map fun ds =>
    ds.foldl (fun n c => base * n + (Bytes.Percent.hexValue? c).getD 0) 0

/-- An integer of 64 bits. -/
def integerOf? (n : Int) : Option Toml :=
  if Text.fitsInt64 n then some (.integer (Int64.ofInt n)) else none

/-- Read an integer. Only one in base ten has a sign. -/
def integer? : List Char → Option Toml
  | '0' :: 'x' :: cs => (basedDigits? 16 cs).bind fun n => integerOf? n
  | '0' :: 'o' :: cs => (basedDigits? 8 cs).bind fun n => integerOf? n
  | '0' :: 'b' :: cs => (basedDigits? 2 cs).bind fun n => integerOf? n
  | cs =>
    let (minus, cs) := signOf cs
    (wholeDigits? cs).bind fun ds =>
      let n : Int := Text.digitsValue ds
      integerOf? (if minus then -n else n)

/-- The double of an infinite number. -/
def infinite (minus : Bool) : Double := ⟨if minus then 0xFFF0000000000000 else 0x7FF0000000000000⟩

/-- The double of no number. -/
def notANumber (minus : Bool) : Double :=
  ⟨if minus then 0xFFF8000000000000 else 0x7FF8000000000000⟩

/-- The exponent of a number, zero when there is none. -/
def exponent? : List Char → Option Int
  | [] => some 0
  | _ :: cs =>
    let (minus, cs) := signOf cs
    (plainDigits? Text.isDigit cs).map fun ds =>
      let n : Int := Text.digitsValue ds
      if minus then -n else n

/-- The digits after the point, none when there is no point. -/
def fractionDigits? : List Char → Option (List Char)
  | [] => some []
  | _ :: cs => plainDigits? Text.isDigit cs

/-- A bound for exponents that matter: beyond it a number with these digits is zero or infinite. -/
def clampExponent (digits : Nat) (e : Int) : Int :=
  let bound : Int := digits + 400
  if bound < e then bound else if e < -bound then -bound else e

/-- The letter before an exponent. -/
def isMark (c : Char) : Bool := c == 'e' || c == 'E'

/-- Read a number with a fraction or an exponent. -/
def double? (cs : List Char) : Option Toml :=
  let (minus, cs) := signOf cs
  if cs = ['i', 'n', 'f'] then some (.double (infinite minus))
  else if cs = ['n', 'a', 'n'] then some (.double (notANumber minus))
  else if !cs.any (fun c => c == '.' || isMark c) then none
  else do
    let mantissa := cs.takeWhile fun c => !isMark c
    let whole ← wholeDigits? (mantissa.takeWhile (· != '.'))
    let fraction ← fractionDigits? (mantissa.dropWhile (· != '.'))
    let exponent ← exponent? (cs.dropWhile fun c => !isMark c)
    let ds := whole ++ fraction
    let power := clampExponent ds.length exponent - fraction.length
    (Double.nearest? minus (Text.digitsValue ds) power).map .double

/-- Read a bare word. -/
def scalar? (cs : List Char) : Option Toml :=
  if cs = ['t', 'r', 'u', 'e'] then some (.boolean true)
  else if cs = ['f', 'a', 'l', 's', 'e'] then some (.boolean false)
  else match integer? cs with
    | some value => some value
    | none =>
      match Moment.parse? cs with
      | some m => some (.moment m.toText)
      | none => double? cs

end CiClient.Toml
