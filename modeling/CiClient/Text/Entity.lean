/-!
# Text inside an attribute of a markup element

An attribute value stands between double quotes, so a quote, an ampersand and the two angle
brackets are written as entities. `escapeAttribute` replaces the ampersand first; the three
later replacements add ampersands but meet none of their own characters again. `expandEntities`
reads such a text back in one pass.
-/

set_option autoImplicit false

namespace CiClient.Text

/-- Replace every occurrence of a character by a text. -/
def replaceChar (c : Char) (replacement : List Char) (cs : List Char) : List Char :=
  cs.flatMap fun d => if d = c then replacement else [d]

/-- A text as the value of an attribute. -/
def escapeAttributeChars (cs : List Char) : List Char :=
  replaceChar '>' ['&', 'g', 't', ';']
    (replaceChar '<' ['&', 'l', 't', ';']
      (replaceChar '"' ['&', 'q', 'u', 'o', 't', ';']
        (replaceChar '&' ['&', 'a', 'm', 'p', ';'] cs)))

/-- A text as the value of an attribute. -/
def escapeAttribute (s : String) : String := String.ofList (escapeAttributeChars s.toList)

/-- Replace each of the four entities by its character, from left to right and once. -/
def expandEntities : List Char → List Char
  | '&' :: 'a' :: 'm' :: 'p' :: ';' :: rest => '&' :: expandEntities rest
  | '&' :: 'q' :: 'u' :: 'o' :: 't' :: ';' :: rest => '"' :: expandEntities rest
  | '&' :: 'l' :: 't' :: ';' :: rest => '<' :: expandEntities rest
  | '&' :: 'g' :: 't' :: ';' :: rest => '>' :: expandEntities rest
  | c :: rest => c :: expandEntities rest
  | [] => []

end CiClient.Text
