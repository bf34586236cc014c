import CiClient.Text.Hidden

/-!
# Quoted text

Messages show a piece of text between double quotes. A quote and a backslash are escaped by a
backslash, four controls have a letter of their own, and the other hidden characters are written
by number in lower-case hexadecimal between braces.
-/

set_option autoImplicit false

namespace CiClient.Text

/-- One character inside quotes. -/
def quoteChar (c : Char) : List Char :=
  if c = '"' then ['\\', '"']
  else if c = '\\' then ['\\', '\\']
  else if c = '\t' then ['\\', 't']
  else if c = '\n' then ['\\', 'n']
  else if c = '\r' then ['\\', 'r']
  else if c.toNat = 0 then ['\\', '0']
  else if isHidden c then ['\\', 'u', '{'] ++ Nat.toDigits 16 c.toNat ++ ['}']
  else [c]

/-- A text between double quotes. -/
def quoted (s : String) : String :=
  String.ofList ('"' :: (s.toList.flatMap quoteChar ++ ['"']))

end CiClient.Text
