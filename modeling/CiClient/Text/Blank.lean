/-!
# White space and trimming

`isBlank` is the Unicode property `White_Space`, and `trim` removes every such character from
both ends of a text and nothing else. All parts of the client that trim use this one rule: a zero
width space or a byte order mark is not white space, a no-break space is.
-/

set_option autoImplicit false

namespace CiClient.Text

/-- The Unicode property `White_Space`. -/
def isBlank (c : Char) : Bool :=
  let n := c.toNat
  (0x09 ≤ n && n ≤ 0x0D) || n == 0x20 || n == 0x85 || n == 0xA0 || n == 0x1680 ||
    (0x2000 ≤ n && n ≤ 0x200A) || n == 0x2028 || n == 0x2029 || n == 0x202F || n == 0x205F ||
    n == 0x3000

/-- Drop the characters satisfying `p` from the end of a text. -/
def dropEndWhile (p : Char → Bool) (cs : List Char) : List Char :=
  (cs.reverse.dropWhile p).reverse

/-- Remove the white space at both ends. -/
def trimChars (cs : List Char) : List Char :=
  dropEndWhile isBlank (cs.dropWhile isBlank)

/-- Remove the white space at both ends. -/
def trim (s : String) : String := String.ofList (trimChars s.toList)

/-- Trimming a text trims its characters. -/
@[simp] theorem toList_trim (s : String) : (trim s).toList = trimChars s.toList := by
  simp [trim]

/-- A text is blank when nothing is left of it after trimming. -/
def isAllBlank (s : String) : Bool := (trimChars s.toList).isEmpty

/-- A text that is not blank, trimmed; nothing for a blank one. -/
def nonBlank? (s : String) : Option String :=
  if isAllBlank s then none else some (trim s)

end CiClient.Text
