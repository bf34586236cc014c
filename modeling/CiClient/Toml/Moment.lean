import CiClient.Text.Decimal

/-!
# Dates and times

A moment is a date, a time, or a date and a time with an optional offset from universal time.
`Moment.parse?` reads one, in which the seconds may be left out, and `Moment.toText` writes it in a
fixed form: a `T` between date and time, always seconds, a fraction of them of at most nine digits
without superfluous zeros, and a `Z` for universal time.
-/

set_option autoImplicit false

namespace CiClient.Toml

/-- A day of the calendar. -/
structure Date where
  year : Nat
  month : Nat
  day : Nat
  deriving DecidableEq

/-- A time of day. -/
structure Time where
  hour : Nat
  minute : Nat
  second : Nat
  nanosecond : Nat
  deriving DecidableEq

/-- The offset from universal time. -/
inductive Offset where
  | universal
  | minutes (n : Int)
  deriving DecidableEq

/-- A date, a time, or both. -/
inductive Moment where
  | date (d : Date)
  | time (t : Time)
  | dateTime (d : Date) (t : Time) (offset : Option Offset)
  deriving DecidableEq

namespace Moment

/-- Read `width` digits at the front of a text. -/
def fixed? (width : Nat) (cs : List Char) : Option (Nat × List Char) :=
  let ds := cs.take width
  if ds.length = width && ds.all Text.isDigit then some (Text.digitsValue ds, cs.drop width)
  else none

/-- Read a given character. -/
def expect? (c : Char) : List Char → Option (List Char)
  | d :: cs => if d = c then some cs else none
  | [] => none

/-- Every fourth year is a leap year, but of the centuries only every fourth. -/
def isLeapYear (year : Nat) : Bool :=
  year % 4 == 0 && (year % 100 != 0 || year % 400 == 0)

/-- The number of days of a month. -/
def daysOf (year month : Nat) : Nat :=
  if month = 2 then (if isLeapYear year then 29 else 28)
  else if month = 4 || month = 6 || month = 9 || month = 11 then 30
  else 31

/-- Read a date. -/
def date? (cs : List Char) : Option (Date × List Char) := do
  let (year, cs) ← fixed? 4 cs
  let cs ← expect? '-' cs
  let (month, cs) ← fixed? 2 cs
  let cs ← expect? '-' cs
  let (day, cs) ← fixed? 2 cs
  if 1 ≤ month && month ≤ 12 && 1 ≤ day && day ≤ daysOf year month then
    some (⟨year, month, day⟩, cs)
  else none

/-- The nanoseconds that the digits of a fraction denote; digits after the ninth are dropped. -/
def nanoseconds (ds : List Char) : Nat :=
  let kept := ds.take 9
  Text.digitsValue kept * Nat.pow 10 (9 - kept.length)

/-- Read the fraction of a second. -/
def fraction? : List Char → Option (Nat × List Char)
  | '.' :: cs =>
    let ds := cs.takeWhile Text.isDigit
    if ds.isEmpty then none else some (nanoseconds ds, cs.dropWhile Text.isDigit)
  | cs => some (0, cs)

/-- Read the second of a time and its fraction, which are zero when they are left out. -/
def second? : List Char → Option (Nat × Nat × List Char)
  | ':' :: cs => do
    let (second, cs) ← fixed? 2 cs
    let (nanosecond, cs) ← fraction? cs
    some (second, nanosecond, cs)
  | cs => some (0, 0, cs)

/-- Read a time of day; a minute may have a leap second. -/
def time? (cs : List Char) : Option (Time × List Char) := do
  let (hour, cs) ← fixed? 2 cs
  let cs ← expect? ':' cs
  let (minute, cs) ← fixed? 2 cs
  let (second, nanosecond, cs) ← second? cs
  if hour ≤ 23 && minute ≤ 59 && second ≤ 60 then some (⟨hour, minute, second, nanosecond⟩, cs)
  else none

/-- Read the size of an offset in minutes. -/
def offsetSize? (cs : List Char) : Option Nat := do
  let (hours, cs) ← fixed? 2 cs
  let cs ← expect? ':' cs
  let (minutes, cs) ← fixed? 2 cs
  if hours ≤ 23 && minutes ≤ 59 && cs.isEmpty then some (60 * hours + minutes) else none

/-- Read what follows date and time. -/
def offset? : List Char → Option (Option Offset)
  | [] => some none
  | ['Z'] => some (some .universal)
  | ['z'] => some (some .universal)
  | '+' :: cs => (offsetSize? cs).map fun n => some (.minutes n)
  | '-' :: cs => (offsetSize? cs).map fun n => some (.minutes (-(n : Int)))
  | _ => none

/-- Whether a character may stand between date and time. -/
def isDivider (c : Char) : Bool := c == 'T' || c == 't' || c == ' '

/-- Read a moment; the whole text belongs to it. -/
def parse? (cs : List Char) : Option Moment :=
  match date? cs with
  | some (day, []) => some (.date day)
  | some (day, c :: rest) =>
    if isDivider c then
      match time? rest with
      | some (clock, rest) => (offset? rest).map fun offset => .dateTime day clock offset
      | none => none
    else none
  | none =>
    match time? cs with
    | some (clock, []) => some (.time clock)
    | _ => none

/-- A number with at least `width` digits. -/
def padded (width n : Nat) : List Char :=
  let ds := Nat.toDigits 10 n
  List.replicate (width - ds.length) '0' ++ ds

/-- A date in its fixed form. -/
def dateText (d : Date) : List Char :=
  padded 4 d.year ++ '-' :: (padded 2 d.month ++ '-' :: padded 2 d.day)

/-- The fraction of a second without superfluous zeros. -/
def fractionText (nanosecond : Nat) : List Char :=
  if nanosecond = 0 then []
  else '.' :: ((padded 9 nanosecond).reverse.dropWhile (· == '0')).reverse

/-- A time in its fixed form. -/
def timeText (t : Time) : List Char :=
  padded 2 t.hour ++ ':' :: (padded 2 t.minute ++ ':' :: (padded 2 t.second ++
    fractionText t.nanosecond))

/-- A distance from universal time in its fixed form, nothing for a local time. -/
def offsetText : Option Offset → List Char
  | none => []
  | some .universal => ['Z']
  | some (.minutes n) =>
    (if n < 0 then '-' else '+') ::
      (padded 2 (n.natAbs / 60) ++ ':' :: padded 2 (n.natAbs % 60))

/-- The fixed form of a moment. -/
def toText : Moment → String
  | date d => String.ofList (dateText d)
  | time t => String.ofList (timeText t)
  | dateTime d t offset =>
    String.ofList (dateText d ++ 'T' :: (timeText t ++ offsetText offset))

end Moment
end CiClient.Toml
