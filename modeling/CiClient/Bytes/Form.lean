import CiClient.Bytes.Percent
import CiClient.Text.Split

/-!
# Form text

`application/x-www-form-urlencoded`: pairs joined by `&`, a name and its value joined by `=`. A
space is written `+`, letters, digits and `*-._` stay, and every other character is
percent-encoded. `parse` reads such a text, and also a query written with `%20` for a space.
-/

set_option autoImplicit false

namespace CiClient.Bytes.Form

/-- The characters that stand for themselves in form text. -/
def isPlain (c : Char) : Bool :=
  c.isAlphanum || c == '*' || c == '-' || c == '.' || c == '_'

/-- One character of form text. -/
def encodeChar (c : Char) : List Char :=
  if c = ' ' then ['+'] else Percent.encodeChar isPlain c

/-- A name or a value in form text. -/
def encodePiece (s : String) : List Char := s.toList.flatMap encodeChar

/-- One pair. -/
def encodePair (pair : String × String) : List Char :=
  encodePiece pair.1 ++ '=' :: encodePiece pair.2

/-- The pairs joined by `&`. -/
def encodeChars : List (String × String) → List Char
  | [] => []
  | [pair] => encodePair pair
  | pair :: pairs => encodePair pair ++ '&' :: encodeChars pairs

/-- A list of pairs as form text. -/
def encode (pairs : List (String × String)) : String := String.ofList (encodeChars pairs)

/-- Read a name or a value. -/
def decodePiece (cs : List Char) : String :=
  ofUtf8Lossy (Percent.decode (cs.map fun c => if c = '+' then ' ' else c))

/-- Read one pair; without `=` the value is empty. -/
def decodePair (cs : List Char) : String × String :=
  match Text.splitOnce '=' cs with
  | some (name, value) => (decodePiece name, decodePiece value)
  | none => (decodePiece cs, "")

/-- Read form text; nothing between two separators is no pair. -/
def parse (s : String) : List (String × String) :=
  ((Text.split (· == '&') s.toList).filter (!·.isEmpty)).map decodePair

end CiClient.Bytes.Form
