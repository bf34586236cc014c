import CiClient.Proofs.LoginCanonical
import CiClient.Proofs.SettingsSources

/-!
# Clients from a setup and from settings

A client may be set up step by step, or be made of settings that were loaded before. Either way a
token wins over a login, and without both the client is anonymous: `StandsFor` says which credential
that is, and both ways are compared with it.

The two ways look at the endpoint and at the credential in opposite order. That can be seen only
where both are unusable: then each reports the one it looks at first.
-/

set_option autoImplicit false

namespace CiClient

/-! ## The credential of a token and a login -/

namespace Settings

/-- The credential that a token and a login stand for. The token wins, and what it hides may be
anything. -/
inductive StandsFor : Option String → Option String → Credential → Prop where
  | token {token pair : String} {credentials : Option String} {login : Login}
      (hdenotes : Login.Denotes token pair) (hof : login.IsOf pair) :
      StandsFor (some token) credentials ⟨.apiToken, login⟩
  | login {text pair : String} {login : Login} (hdenotes : Login.Denotes text pair)
      (hof : login.IsOf pair) : StandsFor none (some text) ⟨.password, login⟩
  | neither : StandsFor none none .anonymous

/-- The text of the credential denotes no pair. -/
def Unidentified (apiToken credentials : Option String) (text : String) : Prop :=
  apiToken.or credentials = some text ∧ ¬∃ pair, Login.Denotes text pair

variable {apiToken credentials : Option String}

/-- The credential of settings is the one that the token and the login stand for. -/
theorem credentialOf_eq_ok_iff {c : Credential} :
    credentialOf apiToken credentials = .ok c ↔ StandsFor apiToken credentials c := by
  obtain ⟨kind, login⟩ := c
  cases apiToken with
  | some token =>
    rw [credentialOf, Credential.ofSetting, Credential.ofApiToken_eq_ok_iff,
      Login.detect_eq_ok_iff]
    constructor
    · rintro ⟨⟨pair, hdenotes, hof⟩, rfl⟩
      exact .token hdenotes hof
    · rintro ⟨hdenotes, hof⟩
      exact ⟨⟨_, hdenotes, hof⟩, rfl⟩
  | none =>
    cases credentials with
    | some text =>
      rw [credentialOf, Credential.ofSetting, Credential.ofPassword_eq_ok_iff,
        Login.detect_eq_ok_iff]
      constructor
      · rintro ⟨⟨pair, hdenotes, hof⟩, rfl⟩
        exact .login hdenotes hof
      · intro h
        cases h with
        | login hdenotes hof => exact ⟨⟨_, hdenotes, hof⟩, rfl⟩
    | none =>
      constructor
      · intro h
        cases h
        exact .neither
      · intro h
        cases h
        rfl

/-- A text that denotes no pair makes no credential, and the error shows this text. -/
theorem credentialOf_eq_error_iff {e : ClientError} :
    credentialOf apiToken credentials = .error e ↔
      ∃ text, Unidentified apiToken credentials text ∧ e = .unidentified text := by
  have hdetect : ∀ (text : String) (kind : AuthenticationKind),
      (Login.detect text).map (fun login => (⟨kind, login⟩ : Credential)) = .error e ↔
        ∃ other, (some text = some other ∧ ¬∃ pair, Login.Denotes other pair) ∧
          e = .unidentified other := by
    intro text kind
    rw [map_eq_error_iff, Login.detect_eq_error_iff]
    constructor
    · rintro ⟨he, hnone⟩
      exact ⟨text, ⟨rfl, hnone⟩, he⟩
    · rintro ⟨other, ⟨hother, hnone⟩, he⟩
      cases hother
      exact ⟨he, hnone⟩
  cases apiToken with
  | some token => exact hdetect token .apiToken
  | none =>
    cases credentials with
    | some text => exact hdetect text .password
    | none =>
      constructor
      · intro h
        cases h
      · rintro ⟨text, ⟨⟨⟩, -⟩, -⟩

end Settings

/-! ## The two ways -/

namespace Client

/-- What is said about a new client of an endpoint, a login and a token. -/
def Setup.given (endpoint : String) (credentials apiToken : Option String) : Setup :=
  { Setup.standard with
    endpoint := some endpoint
    credentials := credentials
    apiToken := apiToken }

/-- The address of an endpoint is the endpoint trimmed, if that is a web address. -/
theorem normalEndpoint_eq_ok_iff {endpoint address : String} :
    normalEndpoint endpoint = .ok address ↔
      isWebAddress (trimEndpoint endpoint) = true ∧ address = trimEndpoint endpoint := by
  rw [normalEndpoint]
  by_cases h : isWebAddress (trimEndpoint endpoint) = true
  · simp [h, eq_comm]
  · simp [h]

/-- An endpoint that is no web address when it is trimmed has none, and the error shows it
trimmed. -/
theorem normalEndpoint_of_not_isWebAddress {endpoint : String}
    (h : isWebAddress (trimEndpoint endpoint) = false) :
    normalEndpoint endpoint =
      .error (.misconfigured ("Endpoint must be an http(s) URL: " ++ trimEndpoint endpoint)) := by
  simp [normalEndpoint, h]

variable (endpoint : String) (credentials apiToken : Option String)

/-- Of what is given, the endpoint is looked at before the credential. -/
theorem build_given :
    (Setup.given endpoint credentials apiToken).build =
      (normalEndpoint endpoint).bind fun address =>
        (Settings.credentialOf apiToken credentials).map fun credential =>
          ⟨address, credential, .standard⟩ :=
  Setup.build_eq _

/-- An endpoint, a login and a token make a client exactly when the endpoint is an address of the
web and the text of the credential, if there is one, denotes a pair. A setup and settings with them
make the same client, whatever the timeout. Where no client is made the errors are the same too,
unless neither the endpoint nor the credential is usable: then the setup reports the endpoint and
the settings report the credential. -/
theorem setup_and_settings_agree (timeout : UInt64) :
    (∀ client : Client, (Setup.given endpoint credentials apiToken).build = .ok client ↔
      isWebAddress (trimEndpoint endpoint) = true ∧ client.endpoint = trimEndpoint endpoint ∧
        Settings.StandsFor apiToken credentials client.credential ∧
        client.policy = .standard) ∧
    (∀ client : Client, ofSettings ⟨endpoint, credentials, apiToken, timeout⟩ = .ok client ↔
      (Setup.given endpoint credentials apiToken).build = .ok client) ∧
    (isWebAddress (trimEndpoint endpoint) = true ∨
        (¬∃ text, Settings.Unidentified apiToken credentials text) →
      ofSettings ⟨endpoint, credentials, apiToken, timeout⟩ =
        (Setup.given endpoint credentials apiToken).build) ∧
    ∀ text, isWebAddress (trimEndpoint endpoint) = false →
      Settings.Unidentified apiToken credentials text →
      (Setup.given endpoint credentials apiToken).build =
          .error (.misconfigured
            ("Endpoint must be an http(s) URL: " ++ trimEndpoint endpoint)) ∧
        ofSettings ⟨endpoint, credentials, apiToken, timeout⟩ = .error (.unidentified text) := by
  have hsettings : ofSettings ⟨endpoint, credentials, apiToken, timeout⟩ =
      (Settings.credentialOf apiToken credentials).bind fun credential =>
        (normalEndpoint endpoint).map fun address => ⟨address, credential, .standard⟩ :=
    ofSettings_eq _
  rw [build_given, hsettings]
  refine ⟨?_, ?_, ?_, ?_⟩
  · intro client
    simp only [bind_eq_ok_iff, map_eq_ok_iff, normalEndpoint_eq_ok_iff,
      Settings.credentialOf_eq_ok_iff]
    constructor
    · rintro ⟨address, ⟨hweb, rfl⟩, credential, hcredential, rfl⟩
      exact ⟨hweb, rfl, hcredential, rfl⟩
    · rintro ⟨hweb, hendpoint, hcredential, hpolicy⟩
      exact ⟨_, ⟨hweb, hendpoint⟩, _, hcredential, by rw [← hpolicy]⟩
  · intro client
    simp only [bind_eq_ok_iff, map_eq_ok_iff]
    constructor
    · rintro ⟨credential, hcredential, address, haddress, hclient⟩
      exact ⟨address, haddress, credential, hcredential, hclient⟩
    · rintro ⟨address, haddress, credential, hcredential, hclient⟩
      exact ⟨credential, hcredential, address, haddress, hclient⟩
  · intro husable
    have hone : (∃ address, normalEndpoint endpoint = .ok address) ∨
        ∃ credential, Settings.credentialOf apiToken credentials = .ok credential := by
      rcases husable with hweb | hidentified
      · exact Or.inl ⟨_, normalEndpoint_eq_ok_iff.mpr ⟨hweb, rfl⟩⟩
      · cases hcredential : Settings.credentialOf apiToken credentials with
        | ok credential => exact Or.inr ⟨credential, rfl⟩
        | error e =>
          obtain ⟨text, htext, -⟩ := Settings.credentialOf_eq_error_iff.mp hcredential
          exact absurd ⟨text, htext⟩ hidentified
    exact (bind_map_comm (fun address credential => Client.mk address credential .standard)
      hone).symm
  · intro text hweb htext
    have hcredential : Settings.credentialOf apiToken credentials = .error (.unidentified text) :=
      Settings.credentialOf_eq_error_iff.mpr ⟨text, htext, rfl⟩
    rw [normalEndpoint_of_not_isWebAddress hweb, hcredential]
    exact ⟨rfl, rfl⟩

/-- A token that hides a login without a colon, and then the same login without the token, for a
server that is named without a scheme. -/
theorem setup_and_settings_agree_of_hidden :
    (∃ client : Client,
      (Setup.given " https://ci/ " (some "nocolon!") (some "u:t")).build = .ok client ∧
      ofSettings ⟨" https://ci/ ", some "nocolon!", some "u:t", 5⟩ = .ok client ∧
      client.endpoint = "https://ci" ∧ client.credential.kind = .apiToken) ∧
    (Setup.given "ci" (some "nocolon!") none).build =
      .error (.misconfigured "Endpoint must be an http(s) URL: ci") ∧
    ofSettings ⟨"ci", some "nocolon!", none, 5⟩ = .error (.unidentified "nocolon!") := by
  constructor
  · obtain ⟨-, hsame, -, -⟩ :=
      setup_and_settings_agree " https://ci/ " (some "nocolon!") (some "u:t") 5
    have hclient : (Setup.given " https://ci/ " (some "nocolon!") (some "u:t")).build =
        .ok ⟨"https://ci", ⟨.apiToken, ⟨"u", "dTp0"⟩⟩, .standard⟩ := by
      decide
    exact ⟨_, hclient, (hsame _).mpr hclient, rfl, rfl⟩
  · obtain ⟨-, -, -, hunusable⟩ := setup_and_settings_agree "ci" (some "nocolon!") none 5
    have hnone : Settings.Unidentified none (some "nocolon!") "nocolon!" := by
      have hrefused : Login.detect "nocolon!" = .error (.unidentified "nocolon!") := by decide
      exact ⟨rfl, (Login.detect_eq_error_iff.mp hrefused).2⟩
    exact hunusable "nocolon!" (by decide) hnone

end Client
end CiClient
