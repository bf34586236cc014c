import CiClient.Client.Basic
import CiClient.Proofs.FilterFields
import CiClient.Proofs.LoginCanonical

/-!
# Clients that can be built

A client is built from an endpoint and a credential, and a credential holds a login that was
detected in some text or the login of anonymous access. Such a login is encoded in base64, so its
authorization may always be sent: `authorize_eq_ok` leaves `authorize` no error to end in.
-/

set_option autoImplicit false

namespace CiClient

open Http (Request Headers)

/-! ## Issued logins -/

/-- A login that a constructor gives. -/
def Login.IsIssued (login : Login) : Prop :=
  login = .anonymous ∨ ∃ raw, Login.detect raw = .ok login

/-- A login that a constructor gave holds the base64 form of some pair. -/
theorem Login.IsIssued.exists_encode {login : Login} (h : login.IsIssued) :
    ∃ pair, login.encoded = Login.encode pair := by
  rcases h with rfl | ⟨raw, hraw⟩
  · exact ⟨_, rfl⟩
  · obtain ⟨pair, hpair⟩ := Login.denotes_of_detect hraw
    exact ⟨pair, ((Login.isOf_iff_denotes hraw pair).mpr hpair).encoded⟩

namespace Credential

/-- The credential of a setting holds a login that a constructor gave. -/
theorem isIssued_of_ofSetting {raw? : Option String} {kind : AuthenticationKind} {c : Credential}
    (h : ofSetting raw? kind = .ok c) : c.login.IsIssued := by
  cases raw? with
  | none =>
    cases h
    exact Or.inl rfl
  | some raw =>
    cases kind with
    | password => exact Or.inr ⟨raw, (ofPassword_eq_ok_iff.mp h).1⟩
    | apiToken => exact Or.inr ⟨raw, (ofApiToken_eq_ok_iff.mp h).1⟩
    | anonymous =>
      cases h
      exact Or.inl rfl

/-- The credential of a token and a login holds a login that a constructor gave. -/
theorem isIssued_of_credentialOf {apiToken credentials : Option String} {c : Credential}
    (h : Settings.credentialOf apiToken credentials = .ok c) : c.login.IsIssued := by
  unfold Settings.credentialOf at h
  split at h <;> exact isIssued_of_ofSetting h

/-- The authorization is the encoded pair behind the name of the scheme. -/
theorem authorization?_eq (c : Credential) :
    c.authorization? = if c.isAnonymous then none else some ("Basic " ++ c.encoded) := by
  obtain ⟨kind, login⟩ := c
  cases kind <;> rfl

/-- The authorization of an issued login is made of visible ASCII characters and spaces. -/
theorem visible_of_mem_authorization {c : Credential} (h : c.login.IsIssued) {ch : Char}
    (hch : ch ∈ ("Basic " ++ c.encoded).toList) : 0x20 ≤ ch.toNat ∧ ch.toNat ≤ 0x7E := by
  obtain ⟨pair, hpair⟩ := h.exists_encode
  rw [encoded, hpair, String.toList_append, List.mem_append] at hch
  rcases hch with hch | hch
  · have hscheme : ∀ n ∈ "Basic ".toList.map Char.toNat, 0x20 ≤ n ∧ n ≤ 0x7E := by decide
    exact hscheme _ (List.mem_map_of_mem hch)
  · rw [Login.encode, String.toList_ofList] at hch
    have hvisible := Bytes.Base64.visible_of_mem_encode hch
    omega

/-- The authorization of a login that a constructor gave may be sent. -/
theorem isLegal_authorization {c : Credential} (h : c.login.IsIssued) :
    Headers.isLegal ("Basic " ++ c.encoded) = true := by
  rw [Headers.isLegal_iff]
  intro ch hch
  have hvisible := visible_of_mem_authorization h hch
  exact Or.inr (by omega)

end Credential

/-! ## Requests with their authorization -/

namespace Filter

/-- A request with the authorization of a credential, if it has one. -/
def authorized (c : Credential) (r : Request) : Request :=
  match c.authorization? with
  | some value => r.withHeader "authorization" value
  | none => r

/-- The authorization of an issued login is always added. -/
theorem authorize_eq_ok {c : Credential} (h : c.login.IsIssued) (r : Request) :
    authorize c r = .ok (authorized c r) := by
  rw [authorize, authorized, Credential.authorization?_eq]
  by_cases hanon : c.isAnonymous = true
  · rw [if_pos hanon]
  · rw [if_neg hanon]
    simp [setField, Credential.isLegal_authorization h]

/-- Authorizing a request sets the fields of the credential. -/
theorem authorized_eq_withHeaders (c : Credential) (r : Request) :
    authorized c r = r.withHeaders (authorizationFields c) := by
  unfold authorized authorizationFields
  cases c.authorization? <;> rfl

/-- Authorizing a request leaves its method alone. -/
@[simp] theorem method_authorized (c : Credential) (r : Request) :
    (authorized c r).method = r.method := by
  rw [authorized_eq_withHeaders, Request.withHeaders_eq]

/-- Authorizing a request leaves its address alone. -/
@[simp] theorem url_authorized (c : Credential) (r : Request) :
    (authorized c r).url = r.url := by
  rw [authorized_eq_withHeaders, Request.withHeaders_eq]

/-- Authorizing a request leaves the fields of other names alone. -/
theorem getAll_authorized_of_ne (c : Credential) (r : Request) {name : String}
    (hne : Headers.lower name ≠ Headers.lower "authorization") :
    (authorized c r).headers.getAll name = r.headers.getAll name := by
  rw [authorized_eq_withHeaders]
  apply Request.getAll_withHeaders_of_ne
  rintro ⟨field, value⟩ hfield
  obtain ⟨rfl, -⟩ := mem_authorizationFields_iff.mp hfield
  exact hne

end Filter

/-! ## Built clients -/

/-- A client that `build` gives, with a credential that a constructor gave if one is set. -/
def Client.IsBuilt (c : Client) : Prop :=
  ∃ s : Client.Setup, s.build = .ok c ∧
    ∀ credential, s.credential = some credential → credential.login.IsIssued

/-- A client is built exactly when the endpoint and the credential are usable, and it holds both and
the policy. -/
theorem Client.Setup.build_eq_ok_iff {s : Client.Setup} {c : Client} :
    s.build = .ok c ↔
      Client.normalEndpoint (s.endpoint.getD Settings.defaultEndpoint) = .ok c.endpoint ∧
        s.chosenCredential = .ok c.credential ∧ c.policy = s.policy := by
  simp only [build, do_bind_eq_ok_iff]
  constructor
  · rintro ⟨endpoint, hendpoint, credential, hcredential, hc⟩
    cases hc
    exact ⟨hendpoint, hcredential, rfl⟩
  · rintro ⟨hendpoint, hcredential, hpolicy⟩
    exact ⟨c.endpoint, hendpoint, c.credential, hcredential, by rw [← hpolicy]⟩

/-- The credential of a built client holds a login that a constructor gave. -/
theorem Client.IsBuilt.isIssued {c : Client} (h : c.IsBuilt) : c.credential.login.IsIssued := by
  obtain ⟨s, hbuild, hgiven⟩ := h
  obtain ⟨-, hcredential, -⟩ := Client.Setup.build_eq_ok_iff.mp hbuild
  unfold Client.Setup.chosenCredential at hcredential
  split at hcredential
  · rename_i credential hsome
    cases hcredential
    exact hgiven _ hsome
  · exact Credential.isIssued_of_credentialOf hcredential

end CiClient
