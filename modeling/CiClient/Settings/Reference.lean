import CiClient.Toml.Basic

/-!
# References to variables

A text may refer to variables of the environment, as `${NAME}` or, with a value that stands in for
a variable that is not set, as `${NAME:-value}`. `expand` replaces the references from left to
right, each by the value of its variable. What is inserted is not looked into again, so it cannot
refer to anything. `Toml.expand` does the same for every string within a value and leaves all else
as it is.
-/

set_option autoImplicit false

namespace CiClient.Settings

/-- The values of the variables that are set. -/
abbrev Environment := String → Option String

/-- A reference to a variable. -/
structure Reference where
  name : String
  fallback : Option (List Char)

namespace Reference

/-- Characters that a name may begin with. -/
def isNameStart (c : Char) : Bool :=
  ('a' ≤ c && c ≤ 'z') || ('A' ≤ c && c ≤ 'Z') || c == '_'

/-- Characters of names. -/
def isNameChar (c : Char) : Bool := isNameStart c || ('0' ≤ c && c ≤ '9')

/-- Characters of the value that stands in for a variable. -/
def isFallbackChar (c : Char) : Bool := c != '}'

/-- Read the name at the front of a text. -/
def readName : List Char → Option (String × List Char)
  | [] => none
  | c :: cs =>
    if isNameStart c then
      some (String.ofList (c :: cs.takeWhile isNameChar), cs.dropWhile isNameChar)
    else none

/-- Read the reference at the front of a text. -/
def read? : List Char → Option (Reference × List Char)
  | '$' :: '{' :: cs =>
    match readName cs with
    | some (name, '}' :: rest) => some (⟨name, none⟩, rest)
    | some (name, ':' :: '-' :: rest) =>
      match rest.dropWhile isFallbackChar with
      | _ :: after => some (⟨name, some (rest.takeWhile isFallbackChar)⟩, after)
      | [] => none
    | _ => none
  | _ => none

/-- Dropping characters makes no text longer. -/
theorem length_dropWhile_le (p : Char → Bool) (cs : List Char) :
    (cs.dropWhile p).length ≤ cs.length :=
  (List.dropWhile_suffix p).length_le

/-- What follows a name is shorter than the text. -/
theorem length_readName_lt {cs rest : List Char} {name : String}
    (h : readName cs = some (name, rest)) : rest.length < cs.length := by
  cases cs with
  | nil => simp [readName] at h
  | cons c cs =>
    simp only [readName] at h
    split at h
    · cases h
      exact Nat.lt_succ_of_le (length_dropWhile_le _ _)
    · simp at h

/-- What follows a reference is shorter than the text. -/
theorem length_read?_lt {cs rest : List Char} {r : Reference} (h : read? cs = some (r, rest)) :
    rest.length < cs.length := by
  unfold read? at h
  split at h
  · rename_i cs
    split at h
    · rename_i name rest' hname
      cases h
      have := length_readName_lt hname
      simp only [List.length_cons] at *
      omega
    · rename_i name rest' hname
      split at h
      · rename_i c after hafter
        cases h
        have hle := length_dropWhile_le isFallbackChar rest'
        have := length_readName_lt hname
        rw [hafter] at hle
        simp only [List.length_cons] at *
        omega
      · simp at h
    · simp at h
  · simp at h

/-- What a reference is replaced by: the value of its variable, else the one that stands in. -/
def value? (env : Environment) (r : Reference) : Option (List Char) :=
  match env r.name with
  | some value => some value.toList
  | none => r.fallback

end Reference

/-- Replace the references in a text; the error is the name of a variable that is not set. -/
def expandChars (env : Environment) (cs : List Char) : Except String (List Char) :=
  match cs with
  | [] => .ok []
  | c :: rest =>
    match h : Reference.read? (c :: rest) with
    | some (r, after) =>
      have : after.length < (c :: rest).length := Reference.length_read?_lt h
      match r.value? env with
      | some value => (expandChars env after).map (value ++ ·)
      | none => .error r.name
    | none => (expandChars env rest).map (c :: ·)
termination_by cs.length
decreasing_by
  · assumption
  · simp

/-- Replace the references in a text. -/
def expand (env : Environment) (s : String) : Except String String :=
  (expandChars env s.toList).map String.ofList

end CiClient.Settings

namespace CiClient.Toml

open Settings (Environment)

mutual

/-- Replace the references in every string within a value; keys are left as they are. -/
def expand (env : Environment) : Toml → Except String Toml
  | .text s => (Settings.expand env s).map .text
  | .integer n => .ok (.integer n)
  | .double d => .ok (.double d)
  | .boolean b => .ok (.boolean b)
  | .moment s => .ok (.moment s)
  | .array items => (expandItems env items).map .array
  | .table entries => (expandEntries env entries).map .table

/-- Replace the references in all items, from the first on. -/
def expandItems (env : Environment) : List Toml → Except String (List Toml)
  | [] => .ok []
  | item :: items => do
    let item ← expand env item
    let items ← expandItems env items
    .ok (item :: items)

/-- Replace the references in the values of all entries, from the first on. -/
def expandEntries (env : Environment) : List (String × Toml) → Except String (List (String × Toml))
  | [] => .ok []
  | (key, value) :: entries => do
    let value ← expand env value
    let entries ← expandEntries env entries
    .ok ((key, value) :: entries)

end

end CiClient.Toml
