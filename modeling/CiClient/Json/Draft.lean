import CiClient.Bytes.Percent
import CiClient.Json.Numeral

/-!
# JSON texts, faults included

A text is read in one pass, and whoever reads it stops at the first problem. What counts as a
problem depends on the reader: a part that is skipped has to follow the grammar only, while a part
that is read has to denote a value as well. A `Draft` is a text taken apart with its faults kept in
place, so that a reader meets them in the order of the text:

* `broken` marks the place where the text leaves the grammar; nothing follows it;
* `unreadable` is a string with an unpaired surrogate or a number too large for a double;
* `deep` is a container with more than 127 containers around and including it;
* `keyless` is an object that leaves the grammar at once, since its first name is no string.

`Draft.json?` reads the value of a draft, and `Draft.ofJson` is the draft of a value.
-/

set_option autoImplicit false

namespace CiClient.Json

/-- A JSON text taken apart, faults included. -/
inductive Draft where
  | null
  | boolean (b : Bool)
  | number (n : Number)
  | text (s : String)
  /-- The items up to the end of the array, or up to a fault after them. -/
  | array (items : List Draft) (closed : Bool)
  /-- The members up to the end of the object, or up to a fault after them. A name is missing when
  it is unreadable. -/
  | object (members : List (Option String × Draft)) (closed : Bool)
  | unreadable
  | deep (content : Draft)
  /-- An object, and what stands in place of its first name. -/
  | keyless (key : Draft)
  | broken

namespace Draft

/-! ## Readings of a draft -/

mutual

/-- Whether a part that is skipped is free of faults. -/
def isWellFormed : Draft → Bool
  | .null => true
  | .boolean _ => true
  | .number _ => true
  | .text _ => true
  | .array items closed => areWellFormed items && closed
  | .object members closed => haveWellFormedValues members && closed
  | .unreadable => true
  | .deep content => content.isWellFormed
  | .keyless _ => false
  | .broken => false

/-- Whether all items of a part that is skipped are free of faults. -/
def areWellFormed : List Draft → Bool
  | [] => true
  | item :: items => item.isWellFormed && areWellFormed items

/-- Whether the values of all members are free of faults; their names may be unreadable. -/
def haveWellFormedValues : List (Option String × Draft) → Bool
  | [] => true
  | (_, value) :: members => value.isWellFormed && haveWellFormedValues members

end

mutual

/-- The value of a draft without faults, the names of every object in order. -/
def json? : Draft → Option Json
  | .null => some .null
  | .boolean b => some (.boolean b)
  | .number n => some (.number n)
  | .text s => some (.text s)
  | .array items closed =>
    match items? items with
    | some items => if closed then some (.array items) else none
    | none => none
  | .object members closed =>
    match members? members with
    | some members => if closed then some (.object (Members.ofList members)) else none
    | none => none
  | .unreadable => none
  | .deep _ => none
  | .keyless _ => none
  | .broken => none

/-- The values of items without faults. -/
def items? : List Draft → Option (List Json)
  | [] => some []
  | item :: items =>
    match item.json?, items? items with
    | some item, some items => some (item :: items)
    | _, _ => none

/-- The members without faults, in the order of the text. -/
def members? : List (Option String × Draft) → Option (List (String × Json))
  | [] => some []
  | (name, value) :: members =>
    match name, value.json?, members? members with
    | some name, some value, some members => some ((name, value) :: members)
    | _, _, _ => none

end

mutual

/-- The draft of a value. -/
def ofJson : Json → Draft
  | .null => .null
  | .boolean b => .boolean b
  | .number n => .number n
  | .text s => .text s
  | .array items => .array (ofItems items) true
  | .object members => .object (ofMembers members) true

/-- The drafts of values. -/
def ofItems : List Json → List Draft
  | [] => []
  | item :: items => ofJson item :: ofItems items

/-- The drafts of members, every name readable. -/
def ofMembers : List (String × Json) → List (Option String × Draft)
  | [] => []
  | (name, value) :: members => (some name, ofJson value) :: ofMembers members

end

mutual

/-- The value of a draft is canonical. -/
theorem canonical_of_json? {d : Draft} {j : Json} (h : d.json? = some j) : j.Canonical := by
  cases d with
  | null => simp only [json?, Option.some.injEq] at h; subst h; simp [Json.Canonical]
  | boolean b => simp only [json?, Option.some.injEq] at h; subst h; simp [Json.Canonical]
  | number n => simp only [json?, Option.some.injEq] at h; subst h; simp [Json.Canonical]
  | text s => simp only [json?, Option.some.injEq] at h; subst h; simp [Json.Canonical]
  | array items closed =>
    simp only [json?] at h
    split at h
    · rename_i js hjs
      split at h
      · cases h
        exact Json.canonical_array_iff.2 (canonical_of_items? hjs)
      · simp at h
    · simp at h
  | object members closed =>
    simp only [json?] at h
    split at h
    · rename_i ms hms
      split at h
      · cases h
        exact Json.canonical_object_iff.2 ⟨Members.sorted_ofList ms, fun member hm =>
          canonical_of_members? hms member (Members.mem_of_mem_ofList hm)⟩
      · simp at h
    · simp at h
  | unreadable => simp [json?] at h
  | deep content => simp [json?] at h
  | keyless key => simp [json?] at h
  | broken => simp [json?] at h

/-- The values of the items of a draft are canonical. -/
theorem canonical_of_items? {items : List Draft} {js : List Json} (h : items? items = some js) :
    ∀ j ∈ js, j.Canonical := by
  cases items with
  | nil => simp only [items?, Option.some.injEq] at h; subst h; simp
  | cons item items =>
    simp only [items?] at h
    split at h
    · rename_i j js' hj hjs
      cases h
      intro k hk
      rcases List.mem_cons.1 hk with rfl | hk
      · exact canonical_of_json? hj
      · exact canonical_of_items? hjs k hk
    · simp at h

/-- The values of the members of a draft are canonical. -/
theorem canonical_of_members? {members : List (Option String × Draft)}
    {ms : List (String × Json)} (h : members? members = some ms) :
    ∀ m ∈ ms, m.2.Canonical := by
  cases members with
  | nil => simp only [members?, Option.some.injEq] at h; subst h; simp
  | cons member members =>
    obtain ⟨name, value⟩ := member
    simp only [members?] at h
    split at h
    · rename_i name' j ms' hj hms
      cases h
      intro k hk
      rcases List.mem_cons.1 hk with rfl | hk
      · exact canonical_of_json? hj
      · exact canonical_of_members? hms k hk
    · simp at h

end

/-- The canonical value of a draft without faults. -/
def datum? (d : Draft) : Option Datum :=
  match h : d.json? with
  | some j => some ⟨j, canonical_of_json? h⟩
  | none => none

/-! ## Strings -/

/-- A character of a string, or the number of a `\u` escape. -/
inductive Piece where
  | char (c : Char)
  | unit (n : Nat)

/-- The number of four hexadecimal digits. -/
def hexUnit? (a b c d : Char) : Option Nat := do
  let a ← Bytes.Percent.hexValue? a
  let b ← Bytes.Percent.hexValue? b
  let c ← Bytes.Percent.hexValue? c
  let d ← Bytes.Percent.hexValue? d
  some (((a * 16 + b) * 16 + c) * 16 + d)

/-- The character of a short escape. -/
def shortEscape? : Char → Option Char
  | '"' => some '"'
  | '\\' => some '\\'
  | '/' => some '/'
  | 'b' => some '\x08'
  | 'f' => some '\x0C'
  | 'n' => some '\n'
  | 'r' => some '\r'
  | 't' => some '\t'
  | _ => none

/-- The pieces of a string after its opening quote, and what follows its closing one. -/
def lexString : List Char → Option (List Piece × List Char)
  | [] => none
  | '"' :: rest => some ([], rest)
  | '\\' :: 'u' :: a :: b :: c :: d :: rest =>
    match hexUnit? a b c d, lexString rest with
    | some n, some (pieces, rest) => some (.unit n :: pieces, rest)
    | _, _ => none
  | '\\' :: c :: rest =>
    match shortEscape? c, lexString rest with
    | some c, some (pieces, rest) => some (.char c :: pieces, rest)
    | _, _ => none
  | c :: rest =>
    if c.toNat < 0x20 || c = '\\' then none
    else (lexString rest).map fun (pieces, rest) => (.char c :: pieces, rest)

/-- The text of a string; nothing when a surrogate is unpaired. -/
def joinPieces : List Piece → Option (List Char)
  | [] => some []
  | .char c :: pieces => (joinPieces pieces).map (c :: ·)
  | .unit n :: .unit m :: pieces =>
    if 0xD800 ≤ n && n ≤ 0xDBFF then
      if 0xDC00 ≤ m && m ≤ 0xDFFF then
        (joinPieces pieces).map
          (Char.ofNat (0x10000 + (n - 0xD800) * 0x400 + (m - 0xDC00)) :: ·)
      else none
    else if 0xDC00 ≤ n && n ≤ 0xDFFF then none
    else (joinPieces (.unit m :: pieces)).map (Char.ofNat n :: ·)
  | .unit n :: pieces =>
    if 0xD800 ≤ n && n ≤ 0xDFFF then none else (joinPieces pieces).map (Char.ofNat n :: ·)

/-- The text of a string. -/
def pieceText? (pieces : List Piece) : Option String := (joinPieces pieces).map String.ofList

/-! ## Texts -/

/-- The characters that may stand between two tokens. -/
def isSpace (c : Char) : Bool := c == ' ' || c == '\n' || c == '\t' || c == '\r'

/-- How many containers may be open. -/
def depthLimit : Nat := 127

/-- Mark a container that is nested too deep. -/
def mark (depth : Nat) (container : Draft) : Draft :=
  if depthLimit < depth then .deep container else container

mutual

/-- Read a value inside `depth` containers. The rest is missing after a fault of the grammar. -/
def readValue : Nat → Nat → List Char → Draft × Option (List Char)
  | 0, _, _ => (.broken, none)
  | fuel + 1, depth, cs =>
    match cs.dropWhile isSpace with
    | 'n' :: 'u' :: 'l' :: 'l' :: rest => (.null, some rest)
    | 't' :: 'r' :: 'u' :: 'e' :: rest => (.boolean true, some rest)
    | 'f' :: 'a' :: 'l' :: 's' :: 'e' :: rest => (.boolean false, some rest)
    | '"' :: rest =>
      match lexString rest with
      | some (pieces, rest) =>
        (match pieceText? pieces with
          | some s => .text s
          | none => .unreadable, some rest)
      | none => (.broken, none)
    | '[' :: rest =>
      match rest.dropWhile isSpace with
      | ']' :: rest => (mark (depth + 1) (.array [] true), some rest)
      | rest =>
        let (items, after) := readItems fuel (depth + 1) rest
        (mark (depth + 1) (.array items after.isSome), after)
    | '{' :: rest =>
      match rest.dropWhile isSpace with
      | '}' :: rest => (mark (depth + 1) (.object [] true), some rest)
      | '"' :: rest =>
        let (members, after) := readMembers fuel (depth + 1) ('"' :: rest)
        (mark (depth + 1) (.object members after.isSome), after)
      | rest => (.keyless (readValue fuel (depth + 1) rest).1, none)
    | rest =>
      match Numeral.lex rest with
      | some (n, rest) =>
        (match n.value? with
          | some n => .number n
          | none => .unreadable, some rest)
      | none => (.broken, none)

/-- Read the items up to the end of an array. -/
def readItems : Nat → Nat → List Char → List Draft × Option (List Char)
  | 0, _, _ => ([], none)
  | fuel + 1, depth, cs =>
    match readValue fuel depth cs with
    | (item, none) => ([item], none)
    | (item, some rest) =>
      match rest.dropWhile isSpace with
      | ']' :: rest => ([item], some rest)
      | ',' :: rest =>
        let (items, after) := readItems fuel depth rest
        (item :: items, after)
      | _ => ([item], none)

/-- Read the members up to the end of an object. -/
def readMembers : Nat → Nat → List Char → List (Option String × Draft) × Option (List Char)
  | 0, _, _ => ([], none)
  | fuel + 1, depth, cs =>
    match cs.dropWhile isSpace with
    | '"' :: rest =>
      match lexString rest with
      | some (pieces, rest) =>
        let name := pieceText? pieces
        match rest.dropWhile isSpace with
        | ':' :: rest =>
          match readValue fuel depth rest with
          | (value, none) => ([(name, value)], none)
          | (value, some rest) =>
            match rest.dropWhile isSpace with
            | '}' :: rest => ([(name, value)], some rest)
            | ',' :: rest =>
              let (members, after) := readMembers fuel depth rest
              ((name, value) :: members, after)
            | _ => ([(name, value)], none)
        | _ => ([(name, .broken)], none)
      | none => ([], none)
    | _ => ([], none)

end

/-- A text: the draft of its value, and whether nothing but white space follows. -/
structure Document where
  root : Draft
  ends : Bool

/-- Take a text apart. -/
def ofText (s : String) : Document :=
  let cs := s.toList
  let (root, rest) := readValue (2 * cs.length + 2) 0 cs
  ⟨root, rest.any fun rest => (rest.dropWhile isSpace).isEmpty⟩

end Draft
end CiClient.Json
