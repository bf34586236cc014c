import CiClient.Proofs.FormText
import CiClient.Proofs.JobScope

/-!
# Paths of jobs are read back

The path of folders and jobs on the server can be taken apart by place alone: of the parts between
its slashes the first is empty, and from there on every other part is a mark and the one behind it a
name. No name is mistaken for a mark, even one that is `job` itself, and no slash of a name is
mistaken for one of the path, because an encoded name has none. `decode?` reads a path that way.

It gives the names back, so the path of some folders and jobs is that of others exactly when both
have the same names. Slashes that are repeated, or stand at an end, make no difference, and so none
between a folder and a job does.
-/

set_option autoImplicit false

namespace CiClient

open Bytes.Percent (encodeWith isUnreserved)

/-! ## Pieces and escapes -/

/-- The pieces of a text are those of the library. -/
theorem Text.split_eq_splitOn (c : Char) (cs : List Char) : split (· == c) cs = cs.splitOn c := by
  unfold List.splitOn
  induction cs with
  | nil => rw [split, List.splitOnP_nil]
  | cons d cs ih =>
    rw [List.splitOnP_cons_eq_if_modifyHead, ← ih, split]
    by_cases hd : (d == c) = true
    · rw [if_pos hd, if_pos hd]
    · rw [if_neg hd, if_neg hd]
      cases hpieces : split (· == c) cs with
      | nil => exact absurd hpieces (split_ne_nil _ cs)
      | cons piece pieces => rfl

namespace Bytes.Percent

/-- Percent-encoding is undone. -/
theorem ofUtf8?_decode_encodeWith (cs : List Char) :
    ofUtf8? (decode (encodeWith isUnreserved cs)) = some (String.ofList cs) := by
  have hplain : (encodeWith isUnreserved cs).map Form.spaced = encodeWith isUnreserved cs := by
    rw [List.map_congr_left fun c hc => Form.spaced_of_isUnreserved_or (of_mem_encodeWith hc),
      List.map_id']
  have hdecode := Form.isCharWriter_unreserved.decode_map_flatMap (String.ofList cs)
  rw [String.toList_ofList, ← encodeWith, hplain] at hdecode
  rw [hdecode, ofUtf8?_utf8]

/-- The digits of escapes. -/
def upperHexDigits : List Char := "0123456789ABCDEF".toList

/-- Escapes are written with upper-case digits. -/
theorem hexDigit_mem {n : Nat} (h : n < 16) : hexDigit n ∈ upperHexDigits := by
  have key : ∀ n < 16, hexDigit n ∈ upperHexDigits := by decide
  exact key n h

end Bytes.Percent

namespace JobPath

open Bytes.Percent (upperHexDigits)

/-- A text of slashes, unreserved characters, and percent signs that two digits follow. -/
inductive IsEscaped : List Char → Prop where
  | nil : IsEscaped []
  | slash {cs : List Char} (h : IsEscaped cs) : IsEscaped ('/' :: cs)
  | unreserved {c : Char} {cs : List Char} (hc : isUnreserved c = true) (h : IsEscaped cs) :
      IsEscaped (c :: cs)
  | escape {high low : Char} {cs : List Char} (hhigh : high ∈ upperHexDigits)
      (hlow : low ∈ upperHexDigits) (h : IsEscaped cs) : IsEscaped ('%' :: high :: low :: cs)

/-- Two escaped texts are one. -/
theorem IsEscaped.append {a b : List Char} (ha : IsEscaped a) (hb : IsEscaped b) :
    IsEscaped (a ++ b) := by
  induction ha with
  | nil => exact hb
  | slash _ ih => exact .slash ih
  | unreserved hc _ ih => exact .unreserved hc ih
  | escape hhigh hlow _ ih => exact .escape hhigh hlow ih

/-- A text of escaped parts is escaped. -/
theorem IsEscaped.flatMap {α : Type} {f : α → List Char} {items : List α}
    (h : ∀ item ∈ items, IsEscaped (f item)) : IsEscaped (items.flatMap f) := by
  induction items with
  | nil => exact .nil
  | cons item items ih =>
    rw [List.flatMap_cons]
    exact (h item List.mem_cons_self).append
      (ih fun other hother => h other (List.mem_cons_of_mem item hother))

/-- The escape of a byte is escaped. -/
theorem isEscaped_escape (b : UInt8) : IsEscaped (Bytes.Percent.escape b) := by
  have hb := b.toNat_lt
  exact .escape (Bytes.Percent.hexDigit_mem (by omega)) (Bytes.Percent.hexDigit_mem (by omega)) .nil

/-- A percent-encoded text is escaped. -/
theorem isEscaped_encodeWith (cs : List Char) : IsEscaped (encodeWith isUnreserved cs) := by
  refine IsEscaped.flatMap fun c _ => ?_
  unfold Bytes.Percent.encodeChar
  split
  · rename_i hc
    exact .unreserved hc .nil
  · exact IsEscaped.flatMap fun b _ => isEscaped_escape b

/-- A name behind its mark is escaped. -/
theorem isEscaped_part (name : List Char) : IsEscaped (part name) := by
  have hmark : IsEscaped "/job/".toList :=
    .slash (.unreserved (by decide) (.unreserved (by decide) (.unreserved (by decide)
      (.slash .nil))))
  exact hmark.append (isEscaped_encodeWith name)

/-! ## Reading a path -/

/-- The names among the parts of a path; every other part is a mark. -/
def namesAt? : List (List Char) → Option (List String)
  | [] => some []
  | [_] => none
  | mark :: name :: parts =>
    if mark = "job".toList then
      (Bytes.ofUtf8? (Bytes.Percent.decode name)).bind fun name =>
        (namesAt? parts).map (name :: ·)
    else none

/-- The names in a path on the server, by their places between the slashes. -/
def decode? (path : String) : Option (List String) :=
  match Text.split (· == '/') path.toList with
  | [] :: parts => namesAt? parts
  | _ => none

/-- The names behind marks are read back, even those that are a mark themselves. -/
theorem namesAt?_parts (names : List (List Char)) :
    namesAt? (names.flatMap fun name => ["job".toList, encodeWith isUnreserved name]) =
      some (names.map String.ofList) := by
  induction names with
  | nil => rfl
  | cons name names ih =>
    rw [List.flatMap_cons, List.cons_append, List.singleton_append, namesAt?, if_pos rfl,
      Bytes.Percent.ofUtf8?_decode_encodeWith, Option.bind_some, ih]
    rfl

/-- The parts of the path of folders and jobs. -/
theorem split_encode (path : String) :
    Text.split (· == '/') (encode path).toList =
      [] :: (names path).flatMap fun name => ["job".toList, encodeWith isUnreserved name] := by
  have hslash : ∀ part ∈ (names path).flatMap fun name =>
      ["job".toList, encodeWith isUnreserved name], ∀ c ∈ part, (c == '/') = false := by
    intro part hpart c hc
    obtain ⟨name, -, hpart⟩ := List.mem_flatMap.mp hpart
    rw [beq_eq_false_iff_ne]
    rintro rfl
    simp only [List.mem_cons, List.not_mem_nil, or_false] at hpart
    rcases hpart with rfl | rfl
    · exact absurd hc (by decide)
    · exact absurd (Bytes.Percent.of_mem_encodeWith hc) (by decide)
  rw [toList_encode]
  exact Uri.Url.split_append_joined (by decide) [] hslash

/-- The names are found again in the path that is made of them. -/
theorem decode?_encode (path : String) :
    decode? (encode path) = some ((names path).map String.ofList) := by
  rw [decode?, split_encode]
  exact namesAt?_parts (names path)

/-- Two paths of folders and jobs are the same on the server exactly when their names are. -/
theorem encode_eq_iff {path other : String} :
    encode path = encode other ↔ names path = names other := by
  constructor
  · intro h
    have hdecode := congrArg decode? h
    rw [decode?_encode, decode?_encode, Option.some.injEq] at hdecode
    exact List.map_injective_iff.mpr (fun _ _ => String.ofList_inj.mp) hdecode
  · intro h
    rw [encode, h, encode]

/-- A slash between two texts keeps their names apart, and adds none. -/
theorem names_append (folder job : String) :
    names (folder ++ "/" ++ job) = names folder ++ names job := by
  have htext : (folder ++ "/" ++ job).toList = folder.toList ++ '/' :: job.toList := by
    simp [String.toList_append]
  rw [names, htext, Text.split_append_cons rfl, List.filter_append]
  rfl

/-- The path of folders and jobs is made of their names, the pieces between slashes that are not
empty, in order, each percent-encoded behind its mark. It is written with slashes, unreserved
characters and escapes only, and read by place it gives the names back. So two such paths are the
same exactly when the names are, and the path of a job in a folder is that of both in one text, and
that of the folder followed by that of the job. -/
theorem path_determines_names (path other folder job : String) :
    names path = (path.toList.splitOn '/').filter (· ≠ []) ∧
    (encode path).toList =
      (names path).flatMap (fun name => "/job/".toList ++ encodeWith isUnreserved name) ∧
    IsEscaped (encode path).toList ∧
    decode? (encode path) = some ((names path).map String.ofList) ∧
    (encode path = encode other ↔ names path = names other) ∧
    JobRef.path ⟨some folder, job⟩ = encode (folder ++ "/" ++ job) ∧
    encode (folder ++ "/" ++ job) = encode folder ++ encode job := by
  have htext : ∀ path, (encode path).toList = (names path).flatMap part := by
    intro path
    rw [encode, String.toList_ofList]
  have hjoint : encode (folder ++ "/" ++ job) = encode folder ++ encode job := by
    rw [encode, names_append, List.flatMap_append, String.ofList_append]
    rfl
  refine ⟨?_, htext path, ?_, decode?_encode path, encode_eq_iff, hjoint.symm, hjoint⟩
  · rw [names, Text.split_eq_splitOn]
    apply List.filter_congr
    intro piece _
    cases piece <;> rfl
  · rw [htext]
    exact IsEscaped.flatMap fun name _ => isEscaped_part name

/-- Repeated slashes, a name that is `job`, and one with an escape in it. -/
example : decode? (encode "/job//job/%2F/") = some ["job", "job", "%2F"] := by
  decide

end JobPath
end CiClient
