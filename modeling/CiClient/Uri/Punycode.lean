import CiClient.Text.Split

/-!
# Punycode

A domain label with characters outside ASCII is written with ASCII letters and digits only: first
its ASCII characters, then the others in ascending order, each as the distance that a cursor
travels over all pairs of code point and position. A distance is a number of variable length in
base 36 whose digit weights adapt to the distances so far.

`encode` writes a label and `decode?` reads one.
-/

set_option autoImplicit false

namespace CiClient.Uri.Punycode

/-- The digit of a value below thirty-six. -/
def digit (n : Nat) : Char :=
  if n < 26 then Char.ofNat (0x61 + n) else Char.ofNat (0x30 + (n - 26))

/-- The least value that ends a number, for the digit at offset `k`. -/
def threshold (k bias : Nat) : Nat :=
  if k ≤ bias then 1 else if bias + 26 ≤ k then 26 else k - bias

/-- Bring a distance below the range of the first digits, counting the digits passed. -/
def settle (delta k : Nat) : Nat :=
  if h : 455 < delta then settle (delta / 35) (k + 36) else k + 36 * delta / (delta + 38)
termination_by delta
decreasing_by omega

/-- The bias after a distance, when `count` characters have been written. -/
def adapt (delta count : Nat) (first : Bool) : Nat :=
  let d := if first then delta / 700 else delta / 2
  settle (d + d / count) 0

/-- A distance as digits, from the digit at offset `k` on. -/
def number (bias k q : Nat) : List Char :=
  let t := threshold k bias
  if h : q < t ∨ 36 ≤ t ∨ t = 0 then [digit q]
  else digit (t + (q - t) % (36 - t)) :: number bias (k + 36) ((q - t) / (36 - t))
termination_by q
decreasing_by
  exact Nat.lt_of_le_of_lt (Nat.div_le_self _ _) (by omega)

/-- What has been written, and where the cursor stands. -/
structure Cursor where
  written : List Char
  count : Nat
  delta : Nat
  bias : Nat

/-- Pass one character of the label while the cursor is at code point `n`. -/
def pass (basic n : Nat) (s : Cursor) (c : Char) : Cursor :=
  if c.toNat < n then { s with delta := s.delta + 1 }
  else if c.toNat = n then
    { written := s.written ++ number s.bias 36 s.delta
      count := s.count + 1
      delta := 0
      bias := adapt s.delta (s.count + 1) (s.count == basic) }
  else s

/-- Write all characters at the given code points, which ascend. -/
def passAll (label : List Char) (basic : Nat) : List Nat → Nat → Cursor → Cursor
  | [], _, s => s
  | n :: later, start, s =>
    let s := { s with delta := s.delta + (n - start) * (s.count + 1) }
    let s := label.foldl (pass basic n) s
    passAll label basic later (n + 1) { s with delta := s.delta + 1 }

/-- A label in ASCII letters and digits. -/
def encode (label : List Char) : List Char :=
  let basic := label.filter fun c => c.toNat < 0x80
  let points := ((label.filter fun c => 0x80 ≤ c.toNat).map Char.toNat).mergeSort.eraseDups
  let s := passAll label basic.length points 0x80 ⟨[], basic.length, 0, 72⟩
  basic ++ (if basic.isEmpty then [] else ['-']) ++ s.written

/-! ## Reading -/

/-- The value of a digit. -/
def digitValue? (c : Char) : Option Nat :=
  let n := c.toNat
  if 0x61 ≤ n && n ≤ 0x7A then some (n - 0x61)
  else if 0x30 ≤ n && n ≤ 0x39 then some (n - 0x30 + 26)
  else none

/-- The range of the weights and distances. -/
def limit : Nat := 4294967296

/-- Read a distance from the digit at offset `k` on and add it, times a weight, to a number. The
rest of the text comes with the sum. -/
def readNumber (bias k weight sum : Nat) : List Char → Option (Nat × List Char)
  | [] => none
  | c :: cs =>
    match digitValue? c with
    | none => none
    | some d =>
      let sum := sum + d * weight
      let t := threshold k bias
      if limit ≤ sum then none
      else if d < t then some (sum, cs)
      else if limit ≤ weight * (36 - t) then none
      else readNumber bias (k + 36) (weight * (36 - t)) sum cs

/-- What follows a number is shorter than the text. -/
theorem length_readNumber_lt {bias k weight sum total : Nat} {cs rest : List Char}
    (h : readNumber bias k weight sum cs = some (total, rest)) : rest.length < cs.length := by
  induction cs generalizing k weight sum with
  | nil => simp [readNumber] at h
  | cons c cs ih =>
    simp only [readNumber] at h
    split at h
    · simp at h
    · split at h
      · simp at h
      · split at h
        · cases h
          exact Nat.lt_succ_self _
        · split at h
          · simp at h
          · exact Nat.lt_succ_of_lt (ih h)

/-- The character at a code point. -/
def charAt? (n : Nat) : Option Char := if n.isValidChar then some (Char.ofNat n) else none

/-- Read the characters outside ASCII one after the other, each into its place. The cursor stands
at code point `n` and at position `i`. -/
def readFrom (bias n i : Nat) (label cs : List Char) : Option (List Char) :=
  if cs.isEmpty then some label
  else
    match h : readNumber bias 36 1 i cs with
    | none => none
    | some (total, rest) =>
      let count := label.length + 1
      let point := n + total / count
      let position := total % count
      match charAt? point with
      | none => none
      | some c =>
        have := length_readNumber_lt h
        readFrom (adapt (total - i) count (i == 0)) point (position + 1)
          (label.take position ++ c :: label.drop position) rest
termination_by cs.length

/-- Read a label; its ASCII characters stand before the last hyphen. -/
def decode? (cs : List Char) : Option (List Char) :=
  match Text.splitLast '-' cs with
  | some ([], _) => none
  | some (basic, rest) =>
    if basic.all fun c => c.toNat < 0x80 then readFrom 72 0x80 0 basic rest else none
  | none => readFrom 72 0x80 0 [] cs

end CiClient.Uri.Punycode
