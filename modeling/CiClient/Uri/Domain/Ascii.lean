import CiClient.Uri.Domain.Label
import CiClient.Uri.Domain.Mapping
import CiClient.Uri.Punycode

/-!
# Domains in ASCII

A domain is sent in lower-case ASCII. Its characters are mapped and composed, it is cut into labels
at the dots, and every label that is not ASCII is written in Punycode behind `xn--`. A label that
comes in this form has to stand for one that would be written so.
-/

set_option autoImplicit false

namespace CiClient.Uri.Domain

/-- Visible ASCII characters that a domain cannot hold. -/
def forbidden : List Char := ['#', '%', '/', ':', '<', '>', '?', '@', '[', '\\', ']', '^', '|']

/-- Whether a mapped domain may hold a character. -/
def isAllowed (c : Char) : Bool :=
  let n := c.toNat
  0x7F < n || (0x20 < n && n != 0x7F && !forbidden.contains c)

/-- Map and compose a text. -/
def prepare? (cs : List Char) : Option (List Char) :=
  (cs.mapM mapChar).map fun parts => Unicode.compose parts.flatten

/-- The form of a label that is not ASCII begins with these characters. -/
def encodedMark : List Char := ['x', 'n', '-', '-']

/-- The most characters of a label in Punycode. -/
def maxEncodedLength : Nat := 2000

/-- Whether a label has to be written in Punycode, and mapping and composing leave it as it is. -/
def isEncodable (label : List Char) : Bool :=
  !isAscii label && !encodedMark.isPrefixOf label && prepare? label == some label

/-- The label that a label stands for: itself, unless it is one in Punycode. -/
def expand? (label : List Char) : Option (List Char) :=
  if encodedMark.isPrefixOf label then
    let digits := label.drop encodedMark.length
    if maxEncodedLength < digits.length then none
    else (Punycode.decode? digits).filter isEncodable
  else some label

/-- A label in ASCII. -/
def encodeLabel (label : List Char) : List Char :=
  if isAscii label then label else encodedMark ++ Punycode.encode label

/-- Labels with dots between them. -/
def join (labels : List (List Char)) : List Char := (labels.intersperse ['.']).flatten

/-- A domain in lower-case ASCII. -/
def toAscii? (name : String) : Option (List Char) := do
  let text ← prepare? name.toList
  if text.all isAllowed then
    let labels ← (Text.split (· == '.') text).mapM expand?
    if labels.all isValid && keepDirections labels then some (join (labels.map encodeLabel))
    else none
  else none

end CiClient.Uri.Domain
