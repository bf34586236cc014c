import CiClient.Bytes.Percent

/-!
# Strings of documents

A basic string stands between double quotes and knows escapes, a literal one between single quotes
and knows none. Either may have three quotes at each end and then run over several lines. Each
reader takes the text after the opening quotes and gives the content with what follows the closing
ones.
-/

set_option autoImplicit false

namespace CiClient.Toml

/-- White space within a line. -/
def isSpace (c : Char) : Bool := c == ' ' || c == '\t'

/-- Drop the white space at the front of a line. -/
def skipSpace (cs : List Char) : List Char := cs.dropWhile isSpace

/-- Characters that comments and strings may hold: no control but the tab. -/
def isPlain (c : Char) : Bool := c == '\t' || (0x20 ≤ c.toNat && c.toNat != 0x7F)

/-- What follows the end of a line. -/
def newline? : List Char → Option (List Char)
  | '\n' :: cs => some cs
  | '\r' :: '\n' :: cs => some cs
  | _ => none

/-- Drop one end of a line, if there is one. -/
def dropNewline (cs : List Char) : List Char := (newline? cs).getD cs

/-- The character that an escape with hexadecimal digits denotes. -/
def scalarChar? (ds : List Char) : Option Char := do
  let n ← ds.foldlM (fun n c => (Bytes.Percent.hexValue? c).map (16 * n + ·)) 0
  if n < 0xD800 || (0xDFFF < n && n < 0x110000) then some (Char.ofNat n) else none

/-- The character of a short escape. -/
def escapedChar? : Char → Option Char
  | 'b' => some '\x08'
  | 't' => some '\t'
  | 'n' => some '\n'
  | 'f' => some '\x0C'
  | 'r' => some '\r'
  | 'e' => some '\x1B'
  | '"' => some '"'
  | '\\' => some '\\'
  | _ => none

/-- Put a character in front of the content that was read. -/
def push? : Option Char → Option (List Char × List Char) → Option (List Char × List Char)
  | some c, some (cs, rest) => some (c :: cs, rest)
  | _, _ => none

/-- Read a basic string of one line. -/
def readBasic : List Char → Option (List Char × List Char)
  | [] => none
  | '"' :: rest => some ([], rest)
  | '\\' :: 'x' :: a :: b :: rest => push? (scalarChar? [a, b]) (readBasic rest)
  | '\\' :: 'u' :: a :: b :: c :: d :: rest => push? (scalarChar? [a, b, c, d]) (readBasic rest)
  | '\\' :: 'U' :: a :: b :: c :: d :: e :: f :: g :: h :: rest =>
    push? (scalarChar? [a, b, c, d, e, f, g, h]) (readBasic rest)
  | '\\' :: c :: rest => push? (escapedChar? c) (readBasic rest)
  | c :: rest => if isPlain c then push? (some c) (readBasic rest) else none

/-- Read a literal string of one line. -/
def readLiteral : List Char → Option (List Char × List Char)
  | [] => none
  | '\x27' :: rest => some ([], rest)
  | c :: rest => if isPlain c then push? (some c) (readLiteral rest) else none

/-- Whether a backslash in front of this text joins lines: only white space stands before the end
of the line. -/
def joinsLines (cs : List Char) : Bool := (newline? (skipSpace cs)).isSome

/-- Read a basic string of several lines. While `joining`, white space and ends of lines are
dropped. Up to two quotes may stand before the closing ones. -/
def readBasicLines : Bool → List Char → Option (List Char × List Char)
  | _, [] => none
  | true, ' ' :: rest => readBasicLines true rest
  | true, '\t' :: rest => readBasicLines true rest
  | true, '\n' :: rest => readBasicLines true rest
  | true, '\r' :: '\n' :: rest => readBasicLines true rest
  | _, '"' :: '"' :: '"' :: '"' :: '"' :: rest => some (['"', '"'], rest)
  | _, '"' :: '"' :: '"' :: '"' :: rest => some (['"'], rest)
  | _, '"' :: '"' :: '"' :: rest => some ([], rest)
  | _, '\\' :: 'x' :: a :: b :: rest =>
    push? (scalarChar? [a, b]) (readBasicLines false rest)
  | _, '\\' :: 'u' :: a :: b :: c :: d :: rest =>
    push? (scalarChar? [a, b, c, d]) (readBasicLines false rest)
  | _, '\\' :: 'U' :: a :: b :: c :: d :: e :: f :: g :: h :: rest =>
    push? (scalarChar? [a, b, c, d, e, f, g, h]) (readBasicLines false rest)
  | _, '\\' :: c :: rest =>
    if joinsLines (c :: rest) then readBasicLines true rest
    else push? (escapedChar? c) (readBasicLines false rest)
  | _, '\r' :: '\n' :: rest => push? (some '\r') (push? (some '\n') (readBasicLines false rest))
  | _, c :: rest =>
    if isPlain c || c = '\n' then push? (some c) (readBasicLines false rest) else none

/-- Read a literal string of several lines. Up to two quotes may stand before the closing ones. -/
def readLiteralLines : List Char → Option (List Char × List Char)
  | [] => none
  | '\x27' :: '\x27' :: '\x27' :: '\x27' :: '\x27' :: rest => some (['\x27', '\x27'], rest)
  | '\x27' :: '\x27' :: '\x27' :: '\x27' :: rest => some (['\x27'], rest)
  | '\x27' :: '\x27' :: '\x27' :: rest => some ([], rest)
  | '\r' :: '\n' :: rest => push? (some '\r') (push? (some '\n') (readLiteralLines rest))
  | c :: rest =>
    if isPlain c || c = '\n' then push? (some c) (readLiteralLines rest) else none

/-- Read a string of one line after its opening quote; nothing for other characters. -/
def quoted? : List Char → Option (Option (List Char × List Char))
  | '"' :: rest => some (readBasic rest)
  | '\x27' :: rest => some (readLiteral rest)
  | _ => none

/-- Read a string of one or several lines; nothing when the text does not begin with a quote. -/
def string? : List Char → Option (Option (List Char × List Char))
  | '"' :: '"' :: '"' :: rest => some (readBasicLines false (dropNewline rest))
  | '\x27' :: '\x27' :: '\x27' :: rest => some (readLiteralLines (dropNewline rest))
  | cs => quoted? cs

end CiClient.Toml
