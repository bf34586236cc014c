import CiClient.Proofs.AuthenticationFields
import CiClient.Proofs.Utf8Bytes

/-!
# Fields that may always be sent

A field is refused when its value holds a control byte. Of the three fields of authentication only
the crumb can ever be refused. The authorization is written in base64, whatever text the credential
was made of, and the session is cut out of a field that was readable. So reads and the fetch of a
crumb never fail before they are sent for want of a field, and a write fails for a field only if the
server issued a crumb with a control byte.

Credentials come from several constructors, some by way of settings or of a client. `IsGiven` has
one case for each of them.
-/

set_option autoImplicit false

namespace CiClient

open Http (Dialogue Exchange Headers Network Request)

/-! ## Control bytes -/

/-- A byte that no value of a field may hold. -/
def Http.Headers.IsControl (b : UInt8) : Prop := b < 0x20 ∧ b ≠ 0x09 ∨ b = 0x7F

/-- Whether a byte is a control byte is decided by comparing it. -/
instance Http.Headers.decidableIsControl (b : UInt8) : Decidable (IsControl b) :=
  inferInstanceAs (Decidable (b < 0x20 ∧ b ≠ 0x09 ∨ b = 0x7F))

/-- The bytes that are none are the tab and those from the space on, delete excepted. -/
theorem Http.Headers.isControl_iff {b : UInt8} :
    IsControl b ↔ ¬(b.toNat = 0x09 ∨ 0x20 ≤ b.toNat ∧ b.toNat ≠ 0x7F) := by
  have htab : b = 0x09 ↔ b.toNat = 0x09 := UInt8.toNat_inj.symm
  have hdelete : b = 0x7F ↔ b.toNat = 0x7F := UInt8.toNat_inj.symm
  have hspace : b < 0x20 ↔ b.toNat < 0x20 := UInt8.lt_iff_toNat_lt
  rw [IsControl, ne_eq, htab, hdelete, hspace]
  omega

/-- A value may be sent exactly when none of its bytes is a control byte. -/
theorem Http.Headers.isLegal_iff_utf8 {value : String} :
    isLegal value = true ↔ ∀ b ∈ Bytes.utf8 value, ¬IsControl b := by
  have hP : ∀ m n : Nat, 128 ≤ m → 128 ≤ n →
      (m = 0x09 ∨ 0x20 ≤ m ∧ m ≠ 0x7F ↔ n = 0x09 ∨ 0x20 ≤ n ∧ n ≠ 0x7F) := by
    intro m n hm hn
    omega
  have htab : ∀ c : Char, c = '\t' ↔ c.toNat = 0x09 := by
    intro c
    exact Char.toNat_inj.symm
  simp only [isControl_iff, Classical.not_not, Bytes.forall_mem_utf8_iff hP, isLegal_iff, htab]

/-! ## Given credentials -/

namespace Credential

/-- A credential that a constructor gives, directly or in settings or a client. -/
inductive IsGiven : Credential → Prop where
  | password {raw : String} {c : Credential} (h : ofPassword raw = .ok c) : IsGiven c
  | apiToken {raw : String} {c : Credential} (h : ofApiToken raw = .ok c) : IsGiven c
  | anonymous : IsGiven anonymous
  | setting {raw? : Option String} {kind : AuthenticationKind} {c : Credential}
      (h : ofSetting raw? kind = .ok c) : IsGiven c
  | settings {s : Settings} {c : Credential} (h : s.credential = .ok c) : IsGiven c
  | built {s : Client.Setup} {client : Client} (h : s.build = .ok client)
      (hgiven : ∀ c, s.credential = some c → IsGiven c) : IsGiven client.credential

variable {c : Credential}

/-- By induction on how a credential was given: its login was issued by a constructor. -/
theorem IsGiven.isIssued (h : c.IsGiven) : c.login.IsIssued := by
  induction h with
  | password h => exact Or.inr ⟨_, (ofPassword_eq_ok_iff.mp h).1⟩
  | apiToken h => exact Or.inr ⟨_, (ofApiToken_eq_ok_iff.mp h).1⟩
  | anonymous => exact Or.inl rfl
  | setting h => exact isIssued_of_ofSetting h
  | settings h => exact isIssued_of_credentialOf h
  | @built s client h _ ih =>
    have hbuilt : client.IsBuilt := ⟨s, h, ih⟩
    exact hbuilt.isIssued

/-- The authorization holds visible ASCII characters and spaces only. -/
theorem mem_utf8_authorization (h : c.login.IsIssued) {b : UInt8}
    (hb : b ∈ Bytes.utf8 ("Basic " ++ c.encoded)) : 0x20 ≤ b ∧ b ≤ 0x7E := by
  have hP : ∀ m n : Nat, 128 ≤ m → 128 ≤ n →
      (0x20 ≤ m ∧ m ≤ 0x7E ↔ 0x20 ≤ n ∧ n ≤ 0x7E) := by
    intro m n hm hn
    omega
  have hchars : ∀ ch ∈ ("Basic " ++ c.encoded).toList, 0x20 ≤ ch.toNat ∧ ch.toNat ≤ 0x7E := by
    intro ch hch
    exact visible_of_mem_authorization h hch
  have hbyte := (Bytes.forall_mem_utf8_iff hP _).mpr hchars b hb
  exact ⟨UInt8.le_iff_toNat_le.mpr hbyte.1, UInt8.le_iff_toNat_le.mpr hbyte.2⟩

end Credential

/-! ## Refused requests -/

/-- A decision refuses for a field when it has a crumb, and then for that of the crumb. -/
theorem CrumbDecision.refusal_eq_misconfigured_iff {d : CrumbDecision} {reason : String} :
    d.refusal = .misconfigured reason ↔
      d.crumb.value.isSome ∧
        reason = "Invalid Jenkins-Crumb header value: failed to parse header value" := by
  unfold refusal
  cases d.crumb.value with
  | none => simp
  | some value => simp [eq_comm]

namespace Filter

variable {c : Credential} {d : CrumbDecision}

/-- Authentication of an issued login fails with the refusal of the decision, and with nothing
else. -/
theorem protect_eq_error_iff (hc : c.login.IsIssued) (hd : d.IsResolved) {r : Request}
    {e : ClientError} : protect c d r = .error e ↔ d.admits = false ∧ e = d.refusal := by
  have hprotect : protect c d r = withCrumb d (authorized c r) := by
    rw [protect, authorize_eq_ok hc]
    rfl
  rw [hprotect]
  cases hadmits : d.admits with
  | true => simp [withCrumb_of_admits hd.isAnswer.isFetched hadmits]
  | false => simp [withCrumb_of_not_admits hadmits, eq_comm]

/-- A write fails for a field exactly when its crumb holds a control byte. -/
theorem protect_eq_misconfigured_iff (hc : c.login.IsIssued) (hd : d.IsResolved) {r : Request}
    {reason : String} :
    protect c d r = .error (.misconfigured reason) ↔
      reason = "Invalid Jenkins-Crumb header value: failed to parse header value" ∧
        ∃ value, d.crumb.value = some value ∧ ∃ b ∈ Bytes.utf8 value, Headers.IsControl b := by
  rw [protect_eq_error_iff hc hd, eq_comm (b := d.refusal),
    CrumbDecision.refusal_eq_misconfigured_iff, CrumbDecision.admits]
  cases d.crumb.value with
  | none => simp
  | some value =>
    have hcontrol : Headers.isLegal value = false ↔
        ∃ b ∈ Bytes.utf8 value, Headers.IsControl b := by
      rw [← Bool.not_eq_true, Headers.isLegal_iff_utf8]
      simp
    simp [hcontrol, and_comm]

end Filter

/-! ## Fields that are never refused -/

/-- The authorization of every credential that can be made holds bytes of visible characters and
spaces only, and the session in any header fields may be sent. So the authorization is always added;
the fetch of a crumb either has no address that it could be sent to, or asks the issuer; and the one
value that a write can be refused for is a crumb with a control byte. -/
theorem authentication_always_sendable {c : Credential} (hc : c.IsGiven) :
    (∀ b ∈ Bytes.utf8 ("Basic " ++ c.encoded), 0x20 ≤ b ∧ b ≤ 0x7E) ∧
    (∀ headers cookie, Crumb.sessionOf headers = some cookie → Headers.isLegal cookie = true) ∧
    (∀ r, ∃ r', Filter.authorize c r = .ok r') ∧
    (∀ client : Client, client.credential = c →
      client.fetchCrumb =
        match Uri.Url.parse? (client.address Client.crumbPath) with
        | none => .done (.failed (.transport "builder error"))
        | some url =>
          if (Client.issuerUrl url).isSendable then do
            let reply ← Dialogue.exchange (client.plainRequest .get url)
            return Client.crumbOf (client.address Client.crumbPath) (Client.issuerUrl url) reply
          else .done (Client.unfetched (client.address Client.crumbPath)
            (Request.unsendable (Client.issuerUrl url)))) ∧
    ∀ d : CrumbDecision, d.IsResolved → ∀ r reason,
      Filter.protect c d r = .error (.misconfigured reason) ↔
        reason = "Invalid Jenkins-Crumb header value: failed to parse header value" ∧
          ∃ value, d.crumb.value = some value ∧
            ∃ b ∈ Bytes.utf8 value, Headers.IsControl b := by
  have hissued := hc.isIssued
  refine ⟨?_, ?_, ?_, ?_, ?_⟩
  · intro b hb
    exact Credential.mem_utf8_authorization hissued hb
  · intro headers cookie hcookie
    exact Crumb.isLegal_of_sessionOf hcookie
  · intro r
    exact ⟨_, Filter.authorize_eq_ok hissued r⟩
  · rintro client rfl
    exact Client.fetchCrumb_eq hissued
  · intro d hd r reason
    exact Filter.protect_eq_misconfigured_iff hissued hd

/-- A server that issues a crumb with a bell in it to a client with a token: its authorization is
added, and its writes are refused for the crumb. -/
theorem authentication_always_sendable_of_bell :
    ∃ (c : Credential) (d : CrumbDecision) (r : Request), c.IsGiven ∧ d.IsResolved ∧
      d.crumb.value = some "a\x07b" ∧ (∃ r', Filter.authorize c r = .ok r') ∧
      Filter.protect c d r =
        .error (.misconfigured "Invalid Jenkins-Crumb header value: failed to parse header value") := by
  have hc : Credential.IsGiven ⟨.apiToken, ⟨"u", "dTp0"⟩⟩ :=
    .apiToken (show Credential.ofApiToken "u:t" = _ by rfl)
  have hd : CrumbDecision.IsResolved ⟨⟨some "a\x07b", none, []⟩, true⟩ :=
    ⟨⟨"http://h", .anonymous, .standard⟩,
      .scripted [some ⟨⟨200⟩, .empty, some (Bytes.utf8 "Jenkins-Crumb:a\x07b")⟩], [], by decide⟩
  obtain ⟨-, -, hauthorize, -, hrefused⟩ := authentication_always_sendable hc
  refine ⟨_, _, .ofUrl .post ⟨false, "", none, .domain "h", none, [], none, none⟩, hc, hd, rfl,
    hauthorize _, ?_⟩
  exact (hrefused _ hd _ _).mpr ⟨rfl, _, rfl, 0x07, by decide, by decide⟩

end CiClient
