import CiClient.Unicode.Composition
import CiClient.Unicode.Direction
import CiClient.Unicode.Joining
import CiClient.Unicode.Mark
import CiClient.Text.Split

/-!
# Labels of domains

A label is a part of a domain between dots. What a label may look like keeps two labels that differ
from being shown alike: it does not begin with a mark, an invisible joiner stands only where it has
an effect, and in a domain that is written from right to left somewhere, every label keeps to one
direction.
-/

set_option autoImplicit false

namespace CiClient.Uri.Domain

open Unicode (Direction)

/-- Whether a text holds ASCII characters only. -/
def isAscii (label : List Char) : Bool := label.all fun c => c.toNat < 0x80

/-! ## Joiners -/

/-- The joiner that keeps two letters apart. -/
def nonJoiner : Char := '\u200C'

/-- The joiner that draws two letters together. -/
def joiner : Char := '\u200D'

/-- Whether the nearest letter joins, where joining does not look through it. -/
def nearestJoins (joins : Char → Bool) (cs : List Char) : Bool :=
  (cs.dropWhile Unicode.isTransparent).head?.any joins

/-- Whether a character may stand behind `before`, whose last character comes first, and in front
of `after`: a joiner stands behind a virama, and the one that keeps letters apart also between two
letters that would join. -/
def fitsBetween (before : List Char) (c : Char) (after : List Char) : Bool :=
  if c == joiner then before.head?.any Unicode.isVirama
  else if c == nonJoiner then
    before.head?.any Unicode.isVirama ||
      (nearestJoins Unicode.joinsNext before && nearestJoins Unicode.joinsPrevious after)
  else true

/-- Whether every joiner has an effect. -/
def joinersFit : List Char → List Char → Bool
  | _, [] => true
  | before, c :: after => fitsBetween before c after && joinersFit (c :: before) after

/-! ## Directions -/

/-- The directions of a label without those of the marks at its end. -/
def directionsBeforeMarks (label : List Char) : List Direction :=
  ((label.map Direction.of).reverse.dropWhile (· = .mark)).reverse

/-- Whether a label that begins with a letter from the left keeps to its direction. -/
def runsRight (label : List Char) : Bool :=
  label.all (fun c => Direction.of c ≠ .rightToLeft && Direction.of c ≠ .arabicNumber) &&
    (directionsBeforeMarks label).getLast?.any fun d => d = .leftToRight || d = .europeanNumber

/-- Whether a label that begins with a letter from the right keeps to its direction. -/
def runsLeft (label : List Char) : Bool :=
  label.all (fun c => Direction.of c ≠ .leftToRight) &&
    ((directionsBeforeMarks label).getLast?.any fun d =>
      d = .rightToLeft || d = .europeanNumber || d = .arabicNumber) &&
    !(label.any (fun c => Direction.of c = .europeanNumber) &&
      label.any (fun c => Direction.of c = .arabicNumber))

/-- Whether a label keeps to the direction of the letter that it begins with. -/
def keepsDirection (label : List Char) : Bool :=
  match label with
  | [] => true
  | c :: _ =>
    match Direction.of c with
    | .leftToRight => runsRight label
    | .rightToLeft => runsLeft label
    | _ => false

/-- Whether the labels of a domain keep to their directions, where that is asked for. -/
def keepDirections (labels : List (List Char)) : Bool :=
  !labels.any (·.any Unicode.turnsAround) || labels.all keepsDirection

/-! ## Single labels -/

/-- The most characters of a label that is not ASCII. -/
def maxLength : Nat := 1000

/-- Whether a label may be part of a domain. -/
def isValid (label : List Char) : Bool :=
  isAscii label ||
    (!label.head?.any Unicode.isMark && joinersFit [] label && label.length ≤ maxLength)

end CiClient.Uri.Domain
