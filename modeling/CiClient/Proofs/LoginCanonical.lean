import Mathlib.Logic.ExistsUnique
import CiClient.Credential
import CiClient.Proofs.Base64Canonical
import CiClient.Proofs.ErrorSteps
import CiClient.Proofs.TextPieces

/-!
# A login has one encoded form

A text denotes a pair `identity:secret` when it is the pair or the base64 form of the pair. No text
denotes two pairs, because base64 holds no colon. `detect` accepts exactly the texts that denote a
pair, and what it makes of them depends on the pair alone: `detect_of_denotes`. So the encoded form
that it gives is a normal form: given back to `detect`, it stays as it is.
-/

set_option autoImplicit false

namespace CiClient

namespace Login

/-- A text that is a pair, or the base64 form of one. -/
def Denotes (raw pair : String) : Prop :=
  ':' ∈ pair.toList ∧ (raw = pair ∨ raw = encode pair)

/-- A login that names the identity of a pair and holds the pair in base64. -/
structure IsOf (login : Login) (pair : String) : Prop where
  encoded : login.encoded = encode pair
  identity : ∃ secret, pair.toList = login.identity.toList ++ ':' :: secret
  first : ':' ∉ login.identity.toList

/-! ## The base64 form of a pair -/

/-- The base64 form of a text holds no colon. -/
theorem colon_not_mem_encode (pair : String) : ':' ∉ (encode pair).toList := by
  intro h
  simp only [encode, String.toList_ofList] at h
  exact (Bytes.Base64.visible_of_mem_encode h).2.2 rfl

/-- A text is decoded to a pair exactly when the pair is encoded as it. -/
theorem decode?_eq_some_iff {raw pair : String} : decode? raw = some pair ↔ raw = encode pair := by
  simp only [decode?, encode, Option.bind_eq_some_iff, Bytes.Base64.decode_eq_some_iff]
  constructor
  · rintro ⟨bytes, hbytes, hpair⟩
    rw [Bytes.utf8_of_ofUtf8? hpair, hbytes, String.ofList_toList]
  · rintro rfl
    exact ⟨Bytes.utf8 pair, String.toList_ofList.symm, Bytes.ofUtf8?_utf8 pair⟩

/-- Different pairs have different base64 forms. -/
theorem encode_injective {pair other : String} (h : encode pair = encode other) :
    pair = other := by
  have hpair : decode? (encode pair) = some pair := decode?_eq_some_iff.mpr rfl
  have hother : decode? (encode pair) = some other := decode?_eq_some_iff.mpr h
  rw [hpair] at hother
  exact Option.some.inj hother

/-! ## The identity of a pair -/

/-- The identity is what stands before the first colon. -/
theorem identityOf?_eq_some_iff {pair identity : String} :
    identityOf? pair = some identity ↔
      (∃ secret, pair.toList = identity.toList ++ ':' :: secret) ∧ ':' ∉ identity.toList := by
  simp only [identityOf?, Option.map_eq_some_iff, Prod.exists]
  constructor
  · rintro ⟨a, b, hsplit, rfl⟩
    obtain ⟨hpair, ha⟩ := Text.splitOnce_eq_some hsplit
    simp only [String.toList_ofList]
    exact ⟨⟨b, hpair⟩, ha⟩
  · rintro ⟨⟨secret, hpair⟩, hidentity⟩
    refine ⟨identity.toList, secret, ?_, String.ofList_toList⟩
    rw [hpair, Text.splitOnce_append secret hidentity]

/-- Only a text without a colon names no identity. -/
theorem identityOf?_eq_none_iff {raw : String} : identityOf? raw = none ↔ ':' ∉ raw.toList := by
  simp [identityOf?, Text.splitOnce_eq_none_iff]

/-- Every text with a colon names an identity. -/
theorem exists_identityOf? {pair : String} (h : ':' ∈ pair.toList) :
    ∃ identity, identityOf? pair = some identity := by
  cases hid : identityOf? pair with
  | some identity => exact ⟨identity, rfl⟩
  | none => exact absurd h (identityOf?_eq_none_iff.mp hid)

/-! ## What is detected -/

/-- No text denotes two pairs: the base64 form of a pair is not itself one. -/
theorem Denotes.unique {raw pair other : String} (h : Denotes raw pair) (h' : Denotes raw other) :
    pair = other := by
  obtain ⟨hpair, rfl | rfl⟩ := h
  · obtain ⟨-, rfl | rfl⟩ := h'
    · rfl
    · exact absurd hpair (colon_not_mem_encode other)
  · obtain ⟨hother, rfl | hencode⟩ := h'
    · exact absurd hother (colon_not_mem_encode pair)
    · exact encode_injective hencode

/-- A text that denotes a pair is accepted, and the login is that of the pair. -/
theorem detect_of_denotes {raw pair : String} (h : Denotes raw pair) :
    ∃ login, detect raw = .ok login ∧ login.IsOf pair := by
  obtain ⟨hcolon, hraw⟩ := h
  obtain ⟨identity, hidentity⟩ := exists_identityOf? hcolon
  obtain ⟨hsecret, hfirst⟩ := identityOf?_eq_some_iff.mp hidentity
  refine ⟨⟨identity, encode pair⟩, ?_, ⟨rfl, hsecret, hfirst⟩⟩
  rcases hraw with rfl | rfl
  · simp only [detect, hidentity]
  · have hnone : identityOf? (encode pair) = none :=
      identityOf?_eq_none_iff.mpr (colon_not_mem_encode pair)
    have hdecode : decode? (encode pair) = some pair := decode?_eq_some_iff.mpr rfl
    simp only [detect, hnone, hdecode, Option.bind_some, hidentity]

/-- A text that is accepted denotes a pair. -/
theorem denotes_of_detect {raw : String} {login : Login} (h : detect raw = .ok login) :
    ∃ pair, Denotes raw pair := by
  simp only [detect] at h
  split at h
  · rename_i identity hidentity
    have hcolon : ':' ∈ raw.toList := by
      obtain ⟨⟨secret, hraw⟩, -⟩ := identityOf?_eq_some_iff.mp hidentity
      simp [hraw]
    exact ⟨raw, hcolon, Or.inl rfl⟩
  split at h
  · rename_i identity hdecode
    obtain ⟨pair, hpair, hidentity⟩ := Option.bind_eq_some_iff.mp hdecode
    have hcolon : ':' ∈ pair.toList := by
      obtain ⟨⟨secret, hraw⟩, -⟩ := identityOf?_eq_some_iff.mp hidentity
      simp [hraw]
    exact ⟨pair, hcolon, Or.inr (decode?_eq_some_iff.mp hpair)⟩
  · cases h

/-- Every other text is refused, and the error names it. -/
theorem detect_eq_error_iff {raw : String} {e : ClientError} :
    detect raw = .error e ↔ e = .unidentified raw ∧ ¬∃ pair, Denotes raw pair := by
  constructor
  · intro h
    refine ⟨?_, ?_⟩
    · simp only [detect] at h
      split at h
      · cases h
      split at h
      · cases h
      · cases h
        rfl
    · rintro ⟨pair, hpair⟩
      obtain ⟨login, hlogin, -⟩ := detect_of_denotes hpair
      rw [h] at hlogin
      cases hlogin
  · rintro ⟨rfl, hnone⟩
    cases hdetect : detect raw with
    | ok login => exact absurd (denotes_of_detect hdetect) hnone
    | error e =>
      simp only [detect] at hdetect
      split at hdetect
      · cases hdetect
      split at hdetect
      · cases hdetect
      · rw [← hdetect]

/-- A login is of one pair only. -/
theorem IsOf.unique {login : Login} {pair other : String} (h : login.IsOf pair)
    (h' : login.IsOf other) : pair = other :=
  encode_injective (h.encoded.symm.trans h'.encoded)

/-- Of one pair there is one login only. -/
theorem IsOf.login_unique {login other : Login} {pair : String} (h : login.IsOf pair)
    (h' : other.IsOf pair) : login = other := by
  have hid : identityOf? pair = some login.identity :=
    identityOf?_eq_some_iff.mpr ⟨h.identity, h.first⟩
  have hid' : identityOf? pair = some other.identity :=
    identityOf?_eq_some_iff.mpr ⟨h'.identity, h'.first⟩
  have hidentity : login.identity = other.identity := by
    rw [hid] at hid'
    exact Option.some.inj hid'
  have hencoded : login.encoded = other.encoded := h.encoded.trans h'.encoded.symm
  cases login
  cases other
  cases hidentity
  cases hencoded
  rfl

/-- The encoded form of a login of a pair denotes the pair. -/
theorem IsOf.denotes {login : Login} {pair : String} (h : login.IsOf pair) :
    Denotes login.encoded pair := by
  refine ⟨?_, Or.inr h.encoded⟩
  obtain ⟨secret, hpair⟩ := h.identity
  simp [hpair]

/-- A text is accepted with the login of a pair that it denotes, and with no other. -/
theorem detect_eq_ok_iff {raw : String} {login : Login} :
    detect raw = .ok login ↔ ∃ pair, Denotes raw pair ∧ login.IsOf pair := by
  constructor
  · intro h
    obtain ⟨denoted, hdenoted⟩ := denotes_of_detect h
    obtain ⟨other, hother, hof⟩ := detect_of_denotes hdenoted
    rw [h] at hother
    cases hother
    exact ⟨denoted, hdenoted, hof⟩
  · rintro ⟨pair, hpair, hof⟩
    obtain ⟨other, hother, hof'⟩ := detect_of_denotes hpair
    rw [hother, hof'.login_unique hof]

/-- Every pair that a login is of is the one that the accepted text denotes. -/
theorem isOf_iff_denotes {raw : String} {login : Login} (h : detect raw = .ok login)
    (pair : String) : login.IsOf pair ↔ Denotes raw pair := by
  obtain ⟨denoted, hdenoted, hof⟩ := detect_eq_ok_iff.mp h
  constructor
  · intro hpair
    rw [hpair.unique hof]
    exact hdenoted
  · intro hpair
    rw [hpair.unique hdenoted]
    exact hof

/-- The encoded form of an accepted text is accepted as it is. -/
theorem detect_encoded {raw : String} {login : Login} (h : detect raw = .ok login) :
    detect login.encoded = .ok login := by
  obtain ⟨pair, hpair⟩ := denotes_of_detect h
  have hof : login.IsOf pair := (isOf_iff_denotes h pair).mpr hpair
  obtain ⟨again, hagain, hof'⟩ := detect_of_denotes hof.denotes
  rw [hagain, hof'.login_unique hof]

/-- Two accepted texts have the same encoded form exactly when they denote the same pair. -/
theorem encoded_eq_iff {raw raw' : String} {login login' : Login} (h : detect raw = .ok login)
    (h' : detect raw' = .ok login') :
    login.encoded = login'.encoded ↔ ∃ pair, Denotes raw pair ∧ Denotes raw' pair := by
  constructor
  · intro heq
    obtain ⟨pair, hpair⟩ := denotes_of_detect h
    have hof : login.IsOf pair := (isOf_iff_denotes h pair).mpr hpair
    have hlogin : login = login' := by
      have hagain := detect_encoded h
      rw [heq, detect_encoded h'] at hagain
      exact (Except.ok.inj hagain).symm
    exact ⟨pair, hpair, (isOf_iff_denotes h' pair).mp (hlogin ▸ hof)⟩
  · rintro ⟨pair, hpair, hpair'⟩
    have hof := (isOf_iff_denotes h pair).mpr hpair
    have hof' := (isOf_iff_denotes h' pair).mpr hpair'
    rw [hof.encoded, hof'.encoded]

end Login

namespace Credential

/-- The constructor for passwords takes the login that is detected. -/
theorem ofPassword_eq_ok_iff {raw : String} {c : Credential} :
    ofPassword raw = .ok c ↔ Login.detect raw = .ok c.login ∧ c.kind = .password := by
  rw [ofPassword, map_eq_ok_iff]
  constructor
  · rintro ⟨login, hlogin, rfl⟩
    exact ⟨hlogin, rfl⟩
  · rintro ⟨hlogin, hkind⟩
    exact ⟨c.login, hlogin, by rw [← hkind]⟩

/-- The constructor for tokens takes the login that is detected. -/
theorem ofApiToken_eq_ok_iff {raw : String} {c : Credential} :
    ofApiToken raw = .ok c ↔ Login.detect raw = .ok c.login ∧ c.kind = .apiToken := by
  rw [ofApiToken, map_eq_ok_iff]
  constructor
  · rintro ⟨login, hlogin, rfl⟩
    exact ⟨hlogin, rfl⟩
  · rintro ⟨hlogin, hkind⟩
    exact ⟨c.login, hlogin, by rw [← hkind]⟩

/-- A text is accepted, as a password or as a token, with some credential. -/
def Accepts (raw : String) (c : Credential) : Prop :=
  ofPassword raw = .ok c ∨ ofApiToken raw = .ok c

/-- A text that a constructor accepts has the login of the credential. -/
theorem Accepts.detect {raw : String} {c : Credential} (h : Accepts raw c) :
    Login.detect raw = .ok c.login := by
  rcases h with h | h
  · exact (ofPassword_eq_ok_iff.mp h).1
  · exact (ofApiToken_eq_ok_iff.mp h).1

/-- A pair given as a password or as a token, plainly or in base64, is accepted, and nothing else
is. What a credential holds is settled by the pair that its text denotes, which is the only pair
with this encoded form and this identity. So the encoded form is a normal form: it is accepted with
the same login, and two texts share it exactly when they denote the same pair. -/
theorem detection_canonical (raw : String) :
    ((∃ c, ofPassword raw = .ok c) ↔ ∃ pair, Login.Denotes raw pair) ∧
    ((∃ c, ofApiToken raw = .ok c) ↔ ∃ pair, Login.Denotes raw pair) ∧
    ((¬∃ pair, Login.Denotes raw pair) →
      ofPassword raw = .error (.unidentified raw) ∧
        ofApiToken raw = .error (.unidentified raw)) ∧
    (∀ c, Accepts raw c →
      (∃! pair, c.login.IsOf pair) ∧
      (∀ pair, c.login.IsOf pair ↔ Login.Denotes raw pair) ∧
      ofPassword c.encoded = .ok ⟨.password, c.login⟩ ∧
      ofApiToken c.encoded = .ok ⟨.apiToken, c.login⟩) ∧
    (∀ raw' c c', Accepts raw c → Accepts raw' c' →
      (c.encoded = c'.encoded ↔ ∃ pair, Login.Denotes raw pair ∧ Login.Denotes raw' pair)) := by
  refine ⟨?_, ?_, ?_, ?_, ?_⟩
  · constructor
    · rintro ⟨c, hc⟩
      exact Login.denotes_of_detect (ofPassword_eq_ok_iff.mp hc).1
    · rintro ⟨pair, hpair⟩
      obtain ⟨login, hlogin, -⟩ := Login.detect_of_denotes hpair
      exact ⟨⟨.password, login⟩, ofPassword_eq_ok_iff.mpr ⟨hlogin, rfl⟩⟩
  · constructor
    · rintro ⟨c, hc⟩
      exact Login.denotes_of_detect (ofApiToken_eq_ok_iff.mp hc).1
    · rintro ⟨pair, hpair⟩
      obtain ⟨login, hlogin, -⟩ := Login.detect_of_denotes hpair
      exact ⟨⟨.apiToken, login⟩, ofApiToken_eq_ok_iff.mpr ⟨hlogin, rfl⟩⟩
  · intro hnone
    have herror := Login.detect_eq_error_iff.mpr ⟨rfl, hnone⟩
    exact ⟨map_eq_error_iff.mpr herror, map_eq_error_iff.mpr herror⟩
  · intro c hc
    have hdetect := hc.detect
    have hagain := Login.detect_encoded hdetect
    refine ⟨?_, Login.isOf_iff_denotes hdetect, ?_, ?_⟩
    · obtain ⟨pair, hpair⟩ := Login.denotes_of_detect hdetect
      have hof := (Login.isOf_iff_denotes hdetect pair).mpr hpair
      exact ⟨pair, hof, fun other hother => hother.unique hof⟩
    · exact ofPassword_eq_ok_iff.mpr ⟨hagain, rfl⟩
    · exact ofApiToken_eq_ok_iff.mpr ⟨hagain, rfl⟩
  · intro raw' c c' hc hc'
    exact Login.encoded_eq_iff hc.detect hc'.detect

/-- A pair and its base64 form are accepted with one login, which is that of the pair. -/
theorem detection_canonical_of_pair :
    ∃ c c', Accepts "dTp0" c ∧ Accepts "u:t" c' ∧ c.login.IsOf "u:t" ∧
      c.encoded = c'.encoded ∧ ofApiToken c.encoded = .ok ⟨.apiToken, c.login⟩ := by
  have hform : Login.Denotes "dTp0" "u:t" := ⟨by decide, Or.inr (by decide)⟩
  have hpair : Login.Denotes "u:t" "u:t" := ⟨by decide, Or.inl rfl⟩
  obtain ⟨hpassword, -, -, haccepted, hshared⟩ := detection_canonical "dTp0"
  obtain ⟨c, hc⟩ := hpassword.mpr ⟨"u:t", hform⟩
  obtain ⟨c', hc'⟩ := (detection_canonical "u:t").1.mpr ⟨"u:t", hpair⟩
  obtain ⟨-, hof, -, htoken⟩ := haccepted c (Or.inl hc)
  have hequal := (hshared "u:t" c c' (Or.inl hc) (Or.inl hc')).mpr ⟨"u:t", hform, hpair⟩
  exact ⟨c, c', Or.inl hc, Or.inl hc', (hof "u:t").mpr hform, hequal, htoken⟩

end Credential
end CiClient
